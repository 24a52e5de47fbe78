import Rulebook.Proofs.Json.Printer
import Rulebook.Proofs.Json.Settled
import Rulebook.UserData

/-!
# User data is kept

What the user typed is shown to the user again in the spread form, and may be typed back
from there. Nothing is lost on the way (`Rulebook.UserData.decode_render`): a value without
doubles is decoded from either of its written forms as it was. A value is meant here as
it is kept, with every name of an object once and in order; from a text that repeats names or
has them in another order, the settled value is decoded.
-/

namespace Rulebook.UserData

variable {v : Json.Value} {t : String}

/-- A text that spells a value is no blank one, and its value is decoded. -/
theorem decode_of_spells (h : Json.Spells (Json.readValue Json.maxDepth) v t.toList) :
    decode t = .ok v.settled := by
  have hblank : Text.blank t = false := by
    obtain ⟨c, cs, ht, hc, -⟩ := h.starts
    rw [Text.blank, ht, List.all_cons, hc, Bool.false_and]
  rw [decode, hblank, if_neg Bool.false_ne_true, Json.parse_of_spells h]
  rfl

theorem decode_render_settled (h : v.Exact 127) : decode (render v) = .ok v.settled := by
  refine decode_of_spells ?_
  rw [render, Json.Value.pretty, String.toList_ofList]
  exact Json.spells_pretty h 0

theorem decode_compact_settled (h : v.Exact 127) : decode v.compact = .ok v.settled := by
  refine decode_of_spells ?_
  rw [Json.Value.compact, String.toList_ofList]
  exact Json.spells_compact h

/-- **What is decoded is in order.** -/
theorem ordered_of_decode (h : decode t = .ok v) : v.Ordered := by
  rw [decode] at h
  split at h
  · cases h
  · rw [Json.parse] at h
    cases hw : Json.parseWritten t with
    | error e =>
      rw [hw] at h
      cases h
    | ok w =>
      rw [hw] at h
      obtain rfl : w.settled = v := Except.ok.inj h
      exact w.ordered_settled

/-- **User data is kept.** For values without doubles, with integers in range, nested at
most 127 deep:

* both written forms of a value are decoded, as the settled value;
* which is the value itself, if the names of its objects are in order;
* a value that was decoded from any text is decoded again from its spread form;
* and no two values in order have the same spread form. -/
theorem decode_render :
    (∀ v : Json.Value, v.Exact 127 →
      decode (render v) = .ok v.settled ∧ decode v.compact = .ok v.settled) ∧
    (∀ v : Json.Value, v.Exact 127 → v.Ordered →
      decode (render v) = .ok v ∧ decode v.compact = .ok v) ∧
    (∀ (t : String) (v : Json.Value), decode t = .ok v → v.Exact 127 →
      decode (render v) = .ok v) ∧
    (∀ v w : Json.Value, v.Exact 127 → v.Ordered → w.Exact 127 → w.Ordered →
      render v = render w → v = w) := by
  have hkept (v : Json.Value) (hv : v.Exact 127) (hord : v.Ordered) :
      decode (render v) = .ok v := by
    rw [decode_render_settled hv, hord.settled_eq]
  refine ⟨?_, ?_, ?_, ?_⟩
  · intro v hv
    exact ⟨decode_render_settled hv, decode_compact_settled hv⟩
  · intro v hv hord
    refine ⟨hkept v hv hord, ?_⟩
    rw [decode_compact_settled hv, hord.settled_eq]
  · intro t v ht hv
    exact hkept v hv (ordered_of_decode ht)
  · intro v w hv hvord hw hword heq
    have h : Except.ok v = (Except.ok w : Except Failure Json.Value) := by
      rw [← hkept v hv hvord, ← hkept w hw hword, heq]
    exact Except.ok.inj h

/-- A value with escapes in a name and in a text, both ends of the range of integers, and
arrays and objects with and without something inside. -/
def nested : Json.Value :=
  .object
    [("", .array [.array [], .object []]),
      ("a\"\\规", .object
        [("i", .integer (-0x8000000000000000)), ("u", .integer 0xFFFFFFFFFFFFFFFF)]),
      ("b", .array [.null, .bool true, .string "\t\x01😀"])]

theorem decode_render_nested :
    nested.Exact 127 ∧ nested.Ordered ∧
      decode (render nested) = .ok nested ∧ decode nested.compact = .ok nested := by
  have hexact : nested.Exact 127 := by
    simp [nested, Json.InIntegerRange]
  have hordered : nested.Ordered := by
    have hnumbers : Json.Increasing
        [("i", .integer (-0x8000000000000000)), ("u", .integer 0xFFFFFFFFFFFFFFFF)] := by
      decide
    rw [nested, Json.Value.ordered_object_iff]
    exact ⟨by decide, by simp [hnumbers]⟩
  exact ⟨hexact, hordered, decode_render.2.1 nested hexact hordered⟩

end Rulebook.UserData
