import Rulebook.Proofs.Url.Percent
import Rulebook.Url.Basic

/-!
# Segments below a path

A URL is extended by segments that are given by their plain texts. Tabs and line breaks in
them are left out (`Rulebook.Url.kept`), and what is left may name no segment at all: nothing,
the place itself, or the place above (`Rulebook.Url.Nameless`). Any other text becomes one
segment, with its escapes (`Rulebook.Url.written`), and segments of this kind come one
behind the other below the path (`Rulebook.Url.extend_eq`). Such a segment is not empty, holds
none of the characters that end a segment, and stands for the text that was kept.

That none of the spellings of the two dot segments comes up is seen from what they stand
for: all of them stand for the dots, so a text that is written in one of these ways
consists of them.
-/

namespace Rulebook.Url

/-! ### Texts of segments -/

/-- What is left of a text in a URL. -/
def kept (name : String) : String := String.ofList (name.toList.filter (! isIgnored ·))

/-- **Whether a text names no segment**: nothing is left of it, or the dots that stand for the
place itself or the place above. -/
def Nameless (name : String) : Prop := name = "" ∨ name = "." ∨ name = ".."

instance (name : String) : Decidable (Nameless name) := inferInstanceAs (Decidable (_ ∨ _))

/-- The characters that are escaped in a segment. -/
def segmentPart (special : Bool) : Part := if special then Part.specialSegment else Part.segment

/-- A segment as it is written. -/
def written (special : Bool) (name : String) : String :=
  String.ofList (escape (segmentPart special) (kept name).toList)

variable {special : Bool} {name : String} {names ns pre suf : List String} {u : Url}

theorem faithful_segmentPart (special : Bool) : (segmentPart special).Faithful := by
  cases special with
  | true => exact Part.faithful_specialSegment
  | false => exact Part.faithful_segment

/-- What is kept of a text without tabs and line breaks is the text. -/
theorem kept_eq (h : ∀ c ∈ name.toList, isIgnored c = false) : kept name = name := by
  have hall : name.toList.filter (! isIgnored ·) = name.toList := by
    refine List.filter_eq_self.mpr fun c hc => ?_
    rw [h c hc]
    rfl
  rw [kept, hall, String.ofList_toList]

/-- **A segment stands for what was kept of its text.** -/
theorem unescape_written (special : Bool) (name : String) :
    unescape (written special name) = Text.Utf8.encode (kept name) :=
  unescape_escape (faithful_segmentPart special) (kept name).toList

theorem decode?_written (special : Bool) (name : String) :
    Text.Utf8.decode? (unescape (written special name)) = .ok (kept name) := by
  rw [unescape_written, Text.Utf8.decode?_encode]

/-- Different texts are written as different segments. -/
theorem kept_eq_of_written_eq {name' : String}
    (h : written special name = written special name') : kept name = kept name' := by
  have hread := decode?_written special name
  rw [h, decode?_written] at hread
  exact (Except.ok.inj hread).symm

theorem written_ne_empty (h : ¬Nameless (kept name)) : written special name ≠ "" := by
  intro heq
  have hbytes := unescape_written special name
  rw [heq] at hbytes
  exact h (.inl (Text.Utf8.encode_injective (hbytes.symm.trans rfl)))

/-- All spellings of the segment for the place itself stand for one dot. -/
theorem unescape_of_isDotSegment {s : String} (h : isDotSegment s = true) :
    unescape s = Text.Utf8.encode "." := by
  simp only [isDotSegment, List.contains_cons, List.contains_nil, Bool.or_eq_true, beq_iff_eq,
    Bool.or_false] at h
  rcases h with rfl | rfl | rfl <;> decide

/-- All spellings of the segment for the place above stand for two dots. -/
theorem unescape_of_isDoubleDotSegment {s : String} (h : isDoubleDotSegment s = true) :
    unescape s = Text.Utf8.encode ".." := by
  simp only [isDoubleDotSegment, List.contains_cons, List.contains_nil, Bool.or_eq_true,
    beq_iff_eq, Bool.or_false] at h
  rcases h with rfl | rfl | rfl | rfl | rfl | rfl | rfl | rfl | rfl <;> decide

theorem isDotSegment_written (h : ¬Nameless (kept name)) :
    isDotSegment (written special name) = false := by
  rw [Bool.eq_false_iff]
  intro hdot
  have hbytes := unescape_of_isDotSegment hdot
  rw [unescape_written] at hbytes
  exact h (.inr (.inl (Text.Utf8.encode_injective hbytes)))

theorem isDoubleDotSegment_written (h : ¬Nameless (kept name)) :
    isDoubleDotSegment (written special name) = false := by
  rw [Bool.eq_false_iff]
  intro hdot
  have hbytes := unescape_of_isDoubleDotSegment hdot
  rw [unescape_written] at hbytes
  exact h (.inr (.inr (Text.Utf8.encode_injective hbytes)))

/-- **No character of a segment ends it.** -/
theorem mem_written {c : Char} (hc : c ∈ (written special name).toList) :
    c ≠ '/' ∧ c ≠ '?' ∧ c ≠ '#' := by
  rw [written, String.toList_ofList] at hc
  rcases mem_escape hc with ⟨-, hplain⟩ | rfl | ⟨n, hn, rfl⟩
  · have hne (d : Char) (hd : segmentPart special d = true) : c ≠ d := by
      rintro rfl
      rw [hd] at hplain
      cases hplain
    have hescaped : segmentPart special '/' = true ∧ segmentPart special '?' = true ∧
        segmentPart special '#' = true := by
      cases special <;> decide
    exact ⟨hne _ hescaped.1, hne _ hescaped.2.1, hne _ hescaped.2.2⟩
  · decide
  · exact hexDigit_ne n hn

/-! ### Paths -/

/-- The segments of a path, without the slash that is the whole of it. -/
def trimmed (names : List String) : List String := if names = [""] then [] else names

/-- The segments below which a path is extended. -/
def root (names : List String) : List String := trimmed (dropFinalSlash names)

theorem exists_trimmed (names : List String) :
    ∃ empties, names = trimmed names ++ empties ∧ ∀ s ∈ empties, s = "" := by
  rw [trimmed]
  split
  · rename_i hslash
    exact ⟨[""], hslash, fun s hs => List.mem_singleton.mp hs⟩
  · exact ⟨[], (List.append_nil _).symm, fun s hs => absurd hs List.not_mem_nil⟩

theorem exists_dropFinalSlash (names : List String) :
    ∃ empties, names = dropFinalSlash names ++ empties ∧ ∀ s ∈ empties, s = "" := by
  have hwhole : ∃ empties, names = names ++ empties ∧ ∀ s ∈ empties, s = "" :=
    ⟨[], (List.append_nil _).symm, fun s hs => absurd hs List.not_mem_nil⟩
  rw [dropFinalSlash]
  split
  · exact hwhole
  · split
    · rename_i hlast
      obtain ⟨front, rfl⟩ := List.getLast?_eq_some_iff.mp hlast
      rw [List.dropLast_concat]
      exact ⟨[""], rfl, fun s hs => List.mem_singleton.mp hs⟩
    · exact hwhole

/-- **A path is what it is extended below**, but for empty segments at its end. -/
theorem exists_root (names : List String) :
    ∃ empties, names = root names ++ empties ∧ ∀ s ∈ empties, s = "" := by
  obtain ⟨slash, hslash, hslashEmpty⟩ := exists_dropFinalSlash names
  obtain ⟨whole, hwhole, hwholeEmpty⟩ := exists_trimmed (dropFinalSlash names)
  refine ⟨whole ++ slash, ?_, fun s hs => ?_⟩
  · rw [root, ← List.append_assoc, ← hwhole]
    exact hslash
  · exact (List.mem_append.mp hs).elim (hwholeEmpty s) (hslashEmpty s)

theorem pushSegment_eq (special : Bool) (names : List String) (name : String) :
    pushSegment special names name = endPath (trimmed names) (written special name) := by
  rw [written, kept, String.toList_ofList]
  rfl

theorem pushSegment_of_named (h : ¬Nameless (kept name)) (names : List String) :
    pushSegment special names name = trimmed names ++ [written special name] := by
  rw [pushSegment_eq, endPath, isDoubleDotSegment_written h, isDotSegment_written h,
    if_neg Bool.false_ne_true, if_neg Bool.false_ne_true]

/-- A text that names no segment has nothing to escape. -/
theorem written_of_nameless (h : Nameless (kept name)) : written special name = kept name := by
  rw [written]
  rcases h with h | h | h <;>
  · rw [h]
    cases special <;> rfl

/-- A text that names no segment leaves an empty one, here or further up. -/
theorem pushSegment_of_nameless (special : Bool) (h : Nameless (kept name))
    (names : List String) :
    ∃ front, pushSegment special names name = front ++ [""] := by
  rw [pushSegment_eq, written_of_nameless h]
  rcases h with h | h | h <;> rw [h]
  · exact ⟨trimmed names, rfl⟩
  · exact ⟨trimmed names, rfl⟩
  · exact ⟨(trimmed names).dropLast, rfl⟩

/-- Segments come one behind the other. -/
theorem foldl_pushSegment (h : ∀ name ∈ ns, ¬Nameless (kept name)) (hns : ns ≠ [])
    (names : List String) :
    ns.foldl (pushSegment special) names = trimmed names ++ ns.map (written special) := by
  induction ns generalizing names with
  | nil => exact absurd rfl hns
  | cons name ns ih =>
    rw [List.forall_mem_cons] at h
    rw [List.foldl_cons, pushSegment_of_named h.1, List.map_cons]
    cases ns with
    | nil => rfl
    | cons name' ns =>
      -- a segment that is not empty is no slash that is the whole path
      have htrimmed : trimmed (trimmed names ++ [written special name]) =
          trimmed names ++ [written special name] := by
        refine if_neg fun heq => ?_
        obtain ⟨-, hlast⟩ := List.append_eq_singleton_iff.mp heq |>.resolve_right (by simp)
        exact written_ne_empty h.1 (List.singleton_inj.mp hlast)
      rw [ih h.2 (List.cons_ne_nil _ _), htrimmed, List.append_assoc, List.singleton_append]

/-- **A URL is extended by the segments that are named**, below its path. -/
theorem extend_eq (hu : u.path = .segments names) (h : ∀ name ∈ ns, ¬Nameless (kept name))
    (hns : ns ≠ []) :
    u.extend ns =
      { u with path := .segments (root names ++ ns.map (written (isSpecial u.scheme))) } := by
  rw [extend, hu]
  simp only [foldl_pushSegment h hns, root]

/-! ### Texts of URLs -/

theorem pathText_append (pre suf : List String) :
    pathText (pre ++ suf) = pathText pre ++ pathText suf := by
  rw [pathText, List.map_append, String.join_append, pathText, pathText]

/-- **URLs that differ in one segment have different texts.** -/
theorem segment_eq_of_text_eq {a b : String} (hpre : pre ≠ [])
    (h : { u with path := .segments (pre ++ a :: suf) }.text =
      { u with path := .segments (pre ++ b :: suf) }.text) : a = b := by
  have hhead (s : String) : (pre ++ s :: suf).head? = pre.head? := by
    cases pre with
    | nil => exact absurd rfl hpre
    | cons t pre => rfl
  have hlength (s : String) : (pre ++ s :: suf).length = pre.length + (suf.length + 1) := by
    rw [List.length_append, List.length_cons]
  have hname (s : String) :
      pathText (pre ++ s :: suf) = pathText pre ++ ("/" ++ s ++ pathText suf) := by
    rw [pathText_append, pathText, pathText, pathText, List.map_cons, String.join_cons]
  rw [text, text] at h
  have hplace := (String.append_right_inj _).mp
    ((String.append_left_inj _).mp ((String.append_left_inj _).mp h))
  have hpath : pathText (pre ++ a :: suf) = pathText (pre ++ b :: suf) := by
    cases ha : u.authority? with
    | none =>
      simp only [placeText, ha, hhead, hlength] at hplace
      exact (String.append_right_inj _).mp hplace
    | some who =>
      simp only [placeText, ha] at hplace
      exact (String.append_right_inj _).mp hplace
  rw [hname, hname] at hpath
  have htail := (String.append_right_inj _).mp hpath
  exact (String.append_right_inj _).mp ((String.append_left_inj _).mp htail)

end Rulebook.Url
