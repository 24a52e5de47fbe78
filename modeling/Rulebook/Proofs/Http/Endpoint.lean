import Rulebook.Proofs.Http.Address

/-!
# Reading the place of a rule back

The address of a rule is the address of the service with its path made longer, and nothing else of
it changes (`Rulebook.Http.endpoint_reads_back`). What the path gets is `rules`, one segment for
the rule, and what the call goes on with; and the segment is the identifier in another form: no
character in it means anything to a path, every percent sign starts an escape, and what it
stands for is the identifier.

A final slash of the path that the service has is given up before. That this is all that is lost
is a statement about texts, and it needs that no segment holds a slash: only then is the last
character of a path a slash exactly if its last segment is empty. There is one path of which more
is lost, two slashes and nothing else.
-/

namespace Rulebook

namespace Url

/-! ### Paths as texts -/

/-- The text of a path. -/
def Path.text : Path → String
  | .plain text => text
  | .segments names => pathText names

/-- A text without the slash at its end, if there is one. -/
def withoutFinalSlash (t : String) : String :=
  String.ofList (if t.toList.getLast? = some '/' then t.toList.dropLast else t.toList)

variable {names : List String} {name s t : String} {c : Char}

theorem withoutFinalSlash_concat (t : String) : withoutFinalSlash (t ++ "/") = t := by
  have hlist : (t ++ "/").toList = t.toList ++ ['/'] := String.toList_append
  rw [withoutFinalSlash, hlist, if_pos List.getLast?_concat, List.dropLast_concat,
    String.ofList_toList]

theorem withoutFinalSlash_of_ne (h : t.toList.getLast? ≠ some '/') : withoutFinalSlash t = t := by
  rw [withoutFinalSlash, if_neg h, String.ofList_toList]

theorem pathText_cons (s : String) (names : List String) :
    pathText (s :: names) = "/" ++ s ++ pathText names := by
  rw [pathText, List.map_cons, String.join_cons, pathText]

/-- A path that does not end in an empty segment does not end in a slash. -/
theorem getLast?_pathText_concat_ne (hs : Slashless s.toList) (hne : s ≠ "") :
    (pathText (names ++ [s])).toList.getLast? ≠ some '/' := by
  have htext :
      (pathText (names ++ [s])).toList = ((pathText names).toList ++ ['/']) ++ s.toList := by
    rw [pathText_append, pathText_cons]
    simp [pathText]
  rw [htext, List.getLast?_append]
  cases hlast : s.toList.getLast? with
  | none => exact absurd (String.toList_eq_nil_iff.mp (List.getLast?_eq_none_iff.mp hlast)) hne
  | some c =>
    intro heq
    obtain rfl : c = '/' := Option.some.inj heq
    exact hs (List.mem_of_getLast? hlast)

/-- **A path is extended below its text**, but for a final slash. -/
theorem pathText_root (h : Segmented names) (hne : names ≠ ["", ""]) :
    pathText (root names) = withoutFinalSlash (pathText names) := by
  rcases List.eq_nil_or_concat names with rfl | ⟨front, s, hconcat⟩
  · rfl
  · obtain rfl := hconcat.trans List.concat_eq_append
    by_cases hs : s = ""
    · subst hs
      have htext : pathText (front ++ [""]) = pathText front ++ "/" := by
        rw [pathText_append]
        rfl
      rw [htext, withoutFinalSlash_concat]
      cases front with
      | nil => rfl
      | cons t ts =>
        have hlength : ¬(t :: ts ++ [""]).length ≤ 1 := by simp
        have hslash : t :: ts ≠ [""] := by
          intro heq
          exact hne (by rw [heq]; rfl)
        rw [root, dropFinalSlash, if_neg hlength, if_pos List.getLast?_concat, List.dropLast_concat,
          trimmed, if_neg hslash]
    · have hlast : Slashless s.toList := h s (List.mem_append_right _ (List.mem_singleton_self s))
      have hdrop : dropFinalSlash (front ++ [s]) = front ++ [s] := by
        rw [dropFinalSlash, List.getLast?_concat]
        simp [hs]
      have htrimmed : trimmed (front ++ [s]) = front ++ [s] := by
        refine if_neg fun heq => ?_
        obtain ⟨-, hsingle⟩ := (List.append_eq_singleton_iff.mp heq).resolve_right (by simp)
        exact hs (List.singleton_inj.mp hsingle)
      rw [root, hdrop, htrimmed, withoutFinalSlash_of_ne (getLast?_pathText_concat_ne hlast hs)]

/-- In a special URL a backslash ends a segment as well, and none stands in a segment. -/
theorem ne_backslash_of_mem_written (hc : c ∈ (written true name).toList) : c ≠ '\\' := by
  rw [written, String.toList_ofList] at hc
  rcases mem_escape hc with ⟨-, hplain⟩ | rfl | ⟨n, hn, rfl⟩
  · rintro rfl
    cases hplain
  · decide
  · intro heq
    have hdigit := (isHexDigit_hexDigit n hn).1
    rw [heq] at hdigit
    exact absurd hdigit (by unfold IsHexDigit; decide)

end Url

namespace Http

open Url (Nameless kept written root pathText)

variable {base : Url}

/-! ### The place of a rule -/

/-- **A URL is the place of a rule below a base**: it is the base in everything but the path, and
its path goes on with `rules`, a segment from which the identifier is read back, and a suffix. -/
structure Places (base : Url) (x : String) (suffix : List String) (url : Url) (segment : String) :
    Prop where
  rest : url = { base with path := url.path }
  path : url.path.text =
    Url.withoutFinalSlash base.path.text ++ "/rules/" ++ segment ++ pathText suffix
  plain : ∀ d ∈ segment.toList, d ≠ '/' ∧ d ≠ '\\' ∧ d ≠ '?' ∧ d ≠ '#'
  escaped : Url.Escaped segment.toList
  decoded : Text.Utf8.decode? (Url.unescape segment) = .ok x

theorem isSpecial_of_scheme (h : base.scheme = "http" ∨ base.scheme = "https") :
    Url.isSpecial base.scheme = true := by
  rcases h with h | h <;> rw [h] <;> rfl

/-- **The place of a rule can be read back.** There are places below every address of a service
that is accepted. With any URL of which this is so and that has the scheme `http` or `https`, and
the path of which is not just two slashes, there is a place for every rule whose identifier names
a segment and holds no tab and no line break. -/
theorem endpoint_reads_back :
    (∀ baseUrl base, address baseUrl = .ok base → base.Rooted) ∧
    ∀ base : Url, base.Rooted → base.scheme = "http" ∨ base.scheme = "https" →
      base.path.text ≠ "//" → ∀ c x suffix, c.onRule? = some (x, suffix) → ¬Nameless x.text →
        (∀ d ∈ x.text.toList, d ≠ '\t' ∧ d ≠ '\n' ∧ d ≠ '\r') →
        ∃ url segment, endpoint base ("rules" :: x.text :: suffix) = .ok url ∧
          (requestFor base c).map (·.url) = .ok url ∧ Places base x.text suffix url segment := by
  refine ⟨fun baseUrl base hbase => rooted_of_address hbase, ?_⟩
  rintro base ⟨names, hnames, hsegmented⟩ hscheme hpath c x suffix hrule hx hplain
  have hspecial := isSpecial_of_scheme hscheme
  have hkept : kept x.text = x.text := by
    refine Url.kept_eq fun d hd => ?_
    obtain ⟨htab, hfeed, hreturn⟩ := hplain d hd
    simp [Url.isIgnored, htab, hfeed, hreturn]
  have hslashes : names ≠ ["", ""] := by
    rintro rfl
    rw [hnames] at hpath
    exact hpath rfl
  have hsuffix := word_of_onRule? hrule
  have hendpoint : endpoint base ("rules" :: x.text :: suffix) =
      .ok (base.extend ("rules" :: x.text :: suffix)) := by
    refine endpoint_of_forall (List.forall_mem_cons.mpr ⟨word_rules.named, ?_⟩) base
    exact List.forall_mem_cons.mpr ⟨hx, fun s hs => (hsuffix s hs).named⟩
  have hextend := extend_of_named hnames hsuffix (hkept.symm ▸ hx)
  rw [hspecial] at hextend
  refine ⟨_, written true x.text, hendpoint, ?_, ?_⟩
  · rw [requestFor_of_named hrule hx]
    rfl
  · rw [hextend]
    refine ⟨rfl, ?_, fun d hd => ?_, ?_, ?_⟩
    · have hword : "/rules/" = "/" ++ "rules" ++ "/" := rfl
      rw [hnames, Url.Path.text, Url.Path.text, Url.pathText_append,
        Url.pathText_root hsegmented hslashes, Url.pathText_cons, Url.pathText_cons, hword]
      simp only [String.append_assoc]
    · obtain ⟨hslash, hquestion, hnumber⟩ := Url.mem_written hd
      exact ⟨hslash, Url.ne_backslash_of_mem_written hd, hquestion, hnumber⟩
    · rw [written, String.toList_ofList]
      exact Url.escaped_escape (Url.faithful_segmentPart true).percent _
    · rw [Url.decode?_written, hkept]

/-- The address of a service below a path with a slash at its end, with a port and a query. -/
def queriedSite : Url :=
  ⟨"http", some ⟨"", none, "rules.test", some 8080⟩, .segments ["api", ""], some "v=1", none⟩

/-- An identifier with an escape, a backslash and a letter that needs three bytes. -/
theorem endpoint_reads_back_escape :
    address "http://rules.test:8080/api/?v=1" = .ok queriedSite ∧
    queriedSite.path.text = "/api/" ∧
    ∃ url segment,
      endpoint queriedSite ["rules", "%2e/\\规", "update"] = .ok url ∧
      (requestFor queriedSite (.updateRule ⟨"%2e/\\规"⟩ "x")).map (·.url) = .ok url ∧
      Places queriedSite "%2e/\\规" ["update"] url segment := by
  have haddress : address "http://rules.test:8080/api/?v=1" = .ok queriedSite :=
    toOption_eq_some_iff.mp (by decide +kernel)
  have hall : "%2e/\\规".toList.all (fun d => d ≠ '\t' ∧ d ≠ '\n' ∧ d ≠ '\r') = true := by decide
  obtain ⟨hrooted, hplaces⟩ := endpoint_reads_back
  exact ⟨haddress, rfl, hplaces queriedSite (hrooted _ _ haddress) (.inl rfl) (by decide)
    (.updateRule ⟨"%2e/\\规"⟩ "x") ⟨"%2e/\\规"⟩ ["update"] rfl (by decide)
    fun d hd => by simpa using List.all_eq_true.mp hall d hd⟩

end Http

end Rulebook
