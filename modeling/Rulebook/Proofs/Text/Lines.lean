import Rulebook.Proofs.Text.Utf8
import Rulebook.Text.Lines

/-!
# Lines that were typed

What is typed line by line arrives as the bytes of all lines, each with a line feed behind it,
and is taken apart into the same lines again (`Rulebook.Text.lines_typed`). The reason is that
the byte of a line feed stands in no other character, so the bytes are cut where the characters
are. A line must not hold a line feed, of course, nor end in a carriage return, which would be
taken for a part of the end of the line.
-/

namespace Rulebook.Text

open Utf8

variable {s : String} {texts : List String}

/-- The bytes of some lines as they are typed. -/
def typed (texts : List String) : List UInt8 := encode (String.join (texts.map (· ++ "\n")))

/-- **A text that is one line**: there is no line feed in it, and no carriage return at its
end. -/
structure OneLine (s : String) : Prop where
  feed : '\n' ∉ s.toList
  ret : s.toList.getLast? ≠ some '\r'

/-! ### Bytes of lines -/

theorem encode_append (s t : String) : encode (s ++ t) = encode s ++ encode t := by
  rw [encode, String.toList_append, List.flatMap_append]
  rfl

/-- The byte of a line feed stands in no other character: all bytes of a longer one are
greater. -/
theorem ne_of_mem_encodeChar {c : Char} (hc : c ≠ '\n') {b : UInt8} (hb : b ∈ encodeChar c) :
    b ≠ 10 := by
  have hne {n : Nat} (hn : n < 0x100) (h : n ≠ 10) : UInt8.ofNat n ≠ 10 := by
    intro heq
    have htoNat := congrArg UInt8.toNat heq
    rw [toNat_byte hn] at htoNat
    exact h htoNat
  have htail (k : Nat) : tailByte c.toNat k ≠ 10 := by
    have hbits : c.toNat / k % 0x40 < 0x40 := Nat.mod_lt _ (by decide)
    exact hne (by omega) (by omega)
  have hlt : c.toNat < 0x110000 := by
    have := c.valid
    change c.toNat < 0xD800 ∨ 0xDFFF < c.toNat ∧ c.toNat < 0x110000 at this
    omega
  have hfeed : c.toNat ≠ 10 := by
    intro h
    apply hc
    rw [← Char.ofNat_toNat c, h]
  rw [encodeChar] at hb
  dsimp only at hb
  split_ifs at hb <;> simp only [List.mem_cons, List.not_mem_nil, or_false] at hb
  · subst hb
    exact hne (by omega) hfeed
  · rcases hb with rfl | rfl
    · exact hne (by omega) (by omega)
    · exact htail 1
  · rcases hb with rfl | rfl | rfl
    · exact hne (by omega) (by omega)
    · exact htail 0x40
    · exact htail 1
  · rcases hb with rfl | rfl | rfl | rfl
    · exact hne (by omega) (by omega)
    · exact htail 0x1000
    · exact htail 0x40
    · exact htail 1

theorem byteLines_append_feed {front : List UInt8} (h : 10 ∉ front) (rest : List UInt8) :
    byteLines (front ++ 10 :: rest) = (front ++ [10]) :: byteLines rest := by
  induction front with
  | nil =>
    rw [List.nil_append, byteLines, if_pos rfl]
    rfl
  | cons b front ih =>
    rw [List.mem_cons, not_or] at h
    rw [List.cons_append, byteLines, if_neg (Ne.symm h.1), ih h.2]
    rfl

theorem chopLineEnd_append_feed (h : s.toList.getLast? ≠ some '\r') :
    chopLineEnd (s ++ "\n") = s := by
  have hreverse : (s ++ "\n").toList.reverse = '\n' :: s.toList.reverse := by
    rw [String.toList_append, List.reverse_append]
    rfl
  rw [chopLineEnd, hreverse]
  split
  · rename_i cs heq
    rw [List.getLast?_eq_head?_reverse, (List.cons.inj heq).2] at h
    exact absurd rfl h
  · rename_i cs _ heq
    rw [← (List.cons.inj heq).2, List.reverse_reverse, String.ofList_toList]
  · rename_i hno
    exact absurd rfl (hno _)

/-! ### Lines -/

/-- **Lines are read as they were typed.** -/
theorem lines_typed (h : ∀ s ∈ texts, OneLine s) : lines (typed texts) = texts.map .ok := by
  induction texts with
  | nil => rfl
  | cons s texts ih =>
    obtain ⟨hs, htexts⟩ := List.forall_mem_cons.mp h
    have hbytes : typed (s :: texts) = encode s ++ 10 :: typed texts := by
      rw [typed, List.map_cons, String.join_cons, encode_append, encode_append, List.append_assoc]
      rfl
    have hfeed : (10 : UInt8) ∉ encode s := by
      intro hmem
      obtain ⟨c, hc, hb⟩ := List.mem_flatMap.mp hmem
      exact ne_of_mem_encodeChar (fun heq => hs.feed (heq ▸ hc)) hb rfl
    have hline : encode s ++ [10] = encode (s ++ "\n") := (encode_append s "\n").symm
    rw [hbytes, lines, byteLines_append_feed hfeed, List.map_cons, hline, decode?_encode,
      List.map_cons, ← ih htexts]
    exact congrArg (Except.ok · :: lines (typed texts)) (chopLineEnd_append_feed hs.ret)

end Rulebook.Text
