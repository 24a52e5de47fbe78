import Rulebook.Proofs.Url.Percent
import Rulebook.Url.Parser

/-!
# The segments of a URL that was read

A slash ends a segment, so no segment of a URL that was read holds one
(`Rulebook.Url.segmented_of_parse`). The parts of the path are cut at every slash, escapes bring no
slash back, and what the dots for the place itself and the place above leave is a segment that was
there before, or an empty one.
-/

namespace Rulebook.Url

variable {p : Char → Bool} {c : Char} {cs w : List Char} {parts : List (List Char)}
  {names : List String} {s : String} {special : Bool} {scheme : String} {u : Url}

/-! ### Cutting at slashes -/

/-- No part of a text that is cut holds a place where it is cut. -/
theorem eq_false_of_mem_splitAt (hw : w ∈ splitAt p cs) : ∀ c ∈ w, p c = false := by
  induction cs generalizing w with
  | nil =>
    obtain rfl := List.mem_singleton.mp hw
    exact fun c hc => absurd hc List.not_mem_nil
  | cons c cs ih =>
    rw [splitAt] at hw
    split at hw
    · rcases List.mem_cons.mp hw with rfl | hw
      · exact fun c hc => absurd hc List.not_mem_nil
      · exact ih hw
    · rename_i hc
      split at hw
      · obtain rfl := List.mem_singleton.mp hw
        exact fun d hd => List.mem_singleton.mp hd ▸ Bool.eq_false_iff.mpr hc
      · rename_i v vs heq
        rcases List.mem_cons.mp hw with rfl | hw
        · refine List.forall_mem_cons.mpr ⟨Bool.eq_false_iff.mpr hc, ih ?_⟩
          rw [heq]
          exact List.mem_cons_self
        · refine ih ?_
          rw [heq]
          exact List.mem_cons_of_mem _ hw

/-- **A text without a slash.** -/
def Slashless (cs : List Char) : Prop := '/' ∉ cs

theorem slashless_of_mem_splitAt (hw : w ∈ splitAt (isSlash special) cs) : Slashless w := by
  intro hmem
  cases eq_false_of_mem_splitAt hw _ hmem

/-- Escapes hold no slash. -/
theorem Slashless.escape (h : Slashless cs) (part : Part) : Slashless (escape part cs) := by
  intro hmem
  rcases mem_escape hmem with ⟨hcs, -⟩ | hpercent | ⟨n, hn, hdigit⟩
  · exact h hcs
  · cases hpercent
  · exact (hexDigit_ne n hn).1 hdigit.symm

/-! ### Joining segments -/

/-- **Segments without slashes.** -/
def Segmented (names : List String) : Prop := ∀ s ∈ names, Slashless s.toList

theorem segmented_nil : Segmented [] := fun _ hs => absurd hs List.not_mem_nil

theorem Segmented.concat (h : Segmented names) (hs : Slashless s.toList) :
    Segmented (names ++ [s]) := by
  intro t ht
  rcases List.mem_append.mp ht with ht | ht
  · exact h t ht
  · exact List.mem_singleton.mp ht ▸ hs

theorem Segmented.cons (h : Segmented names) (hs : Slashless s.toList) : Segmented (s :: names) :=
  List.forall_mem_cons.mpr ⟨hs, h⟩

theorem Segmented.dropLast (h : Segmented names) : Segmented names.dropLast :=
  fun _ hs => h _ (List.dropLast_subset names hs)

theorem Segmented.dropWhile (h : Segmented names) (p : String → Bool) :
    Segmented (names.dropWhile p) :=
  fun _ hs => h _ ((List.dropWhile_suffix p).mem hs)

theorem Segmented.endPath (h : Segmented names) (hs : Slashless s.toList) :
    Segmented (endPath names s) := by
  have hempty : Slashless "".toList := List.not_mem_nil
  rw [Url.endPath]
  split
  · exact h.dropLast.concat hempty
  · split
    · exact h.concat hempty
    · exact h.concat hs

theorem slashless_written (hw : Slashless w) :
    Slashless (String.ofList (escape Part.path w)).toList := by
  rw [String.toList_ofList]
  exact hw.escape _

/-- **Parts without slashes are joined to segments without slashes.** -/
theorem Segmented.joinSegments (h : Segmented names) (hparts : ∀ w ∈ parts, Slashless w) :
    Segmented (joinSegments names parts) := by
  induction parts generalizing names with
  | nil => exact h
  | cons w parts ih =>
    rw [List.forall_mem_cons] at hparts
    have hw := slashless_written hparts.1
    cases parts with
    | nil => exact h.endPath hw
    | cons w' parts =>
      rw [Url.joinSegments.eq_3 _ _ _ (List.cons_ne_nil _ _)]
      refine ih ?_ hparts.2
      split
      · exact h.dropLast
      · split
        · exact h
        · exact h.concat hw

theorem segmented_pathSegments (special : Bool) (cs : List Char) :
    Segmented (pathSegments special cs) :=
  segmented_nil.joinSegments fun _ hw => slashless_of_mem_splitAt hw

theorem segmented_pathAfterAuthority (special : Bool) (cs : List Char) :
    Segmented (pathAfterAuthority special cs) := by
  rw [pathAfterAuthority.eq_def]
  split
  · split
    · exact segmented_nil.cons List.not_mem_nil
    · exact segmented_nil
  · split
    · exact segmented_pathSegments special _
    · exact segmented_pathSegments special _

theorem segmented_fileSegments (cs : List Char) : Segmented (fileSegments cs) := by
  have hparts : ∀ w ∈ (splitAt (isSlash true) cs).dropWhile (· == []), Slashless w :=
    fun w hw => slashless_of_mem_splitAt ((List.dropWhile_suffix _).mem hw)
  have hslash : Segmented [""] := segmented_nil.cons List.not_mem_nil
  rw [fileSegments]
  dsimp only
  split
  · rename_i drive rest heq
    rw [heq, List.forall_mem_cons] at hparts
    have hdrive : Slashless (String.ofList (drive.take 1 ++ [':'])).toList := by
      rw [String.toList_ofList]
      intro hmem
      rcases List.mem_append.mp hmem with hmem | hmem
      · exact hparts.1 (List.mem_of_mem_take hmem)
      · cases List.mem_singleton.mp hmem
    split
    · split
      · exact segmented_nil.cons hdrive
      · exact (segmented_nil.joinSegments hparts.2).cons hdrive
    · have hjoined := segmented_nil.joinSegments (List.forall_mem_cons.mpr hparts)
      rw [heq]
      split
      · exact hslash
      · exact hjoined.dropWhile _
  · exact hslash

/-! ### Reading -/

/-- **Whether a path has segments without slashes**, if it has segments at all. -/
def Path.Segmented : Path → Prop
  | .plain _ => True
  | .segments names => Url.Segmented names

theorem segmented_of_afterSlashes (h : afterSlashes scheme cs = .ok u) : u.path.Segmented := by
  rw [afterSlashes] at h
  dsimp only at h
  split at h
  · cases h
  · cases hauthority :
        authority scheme (cutAt (isSlash (isSpecial scheme)) (cutAt endsPath cs).1).1 with
    | error e =>
      rw [hauthority] at h
      cases h
    | ok a =>
      rw [hauthority] at h
      cases h
      exact segmented_pathAfterAuthority _ _

theorem segmented_of_file (h : file cs = .ok u) : u.path.Segmented := by
  rw [file] at h
  dsimp only at h
  split at h
  · split at h
    · split at h
      · cases h
        exact segmented_fileSegments _
      · rename_i inner _ _ _
        cases hhost : specialHost (cutAt (isSlash true) inner).1 with
        | error e =>
          rw [hhost] at h
          cases h
        | ok host =>
          rw [hhost] at h
          cases h
          exact segmented_fileSegments _
    · cases h
      exact segmented_fileSegments _
  · cases h
    exact segmented_fileSegments _

theorem segmented_of_afterScheme (h : afterScheme scheme cs = .ok u) : u.path.Segmented := by
  rw [afterScheme.eq_def] at h
  split at h
  · exact segmented_of_file h
  · split at h
    · exact segmented_of_afterSlashes h
    · split at h
      · exact segmented_of_afterSlashes h
      · dsimp only at h
        split at h
        · cases h
          exact segmented_pathSegments _ _
        · cases h
          exact trivial

/-- **Whether there are places below a URL**: its path has segments, and none of them holds a
slash. -/
def Rooted (u : Url) : Prop := ∃ names, u.path = .segments names ∧ Segmented names

/-- **No segment of a URL that was read holds a slash.** -/
theorem segmented_of_parse {t : String} (h : parse t = .ok u) : u.path.Segmented := by
  rw [parse] at h
  dsimp only at h
  split at h
  · split at h
    · exact segmented_of_afterScheme h
    · cases h
  · cases h

end Rulebook.Url
