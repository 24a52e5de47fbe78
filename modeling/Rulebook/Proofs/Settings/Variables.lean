import Rulebook.Proofs.Settings.Sectioned
import Rulebook.Proofs.Text.LowerCase

/-!
# Settings that are variables

A variable stands for the setting whose path its name spells. So what a layer of variables says
about a setting is what the variables say that stand for this setting
(`Rulebook.Settings.saidBy_variableLayer`), and if all of them stand for settings, none of them
puts anything in the place of a section (`Rulebook.Settings.sectioned_variableLayer`).
-/

namespace Rulebook.Settings

/-! ### Settings by name -/

/-- The name of a setting is its path. -/
theorem Leaf.accesses_key (x : Leaf) : accesses x.key = x.path.map .key := by
  cases x <;> decide +kernel

/-- What stands at the end of the path of a setting is said about this setting only. -/
theorem Leaf.said_path (x y : Leaf) (e : Entry) :
    Entry.said x.path (y.path.map .key) e = if y = x then [e] else [] := by
  cases x <;> cases y <;> rfl

/-- An entry that is named like a setting speaks of it, and of no other. -/
theorem Leaf.said_key (x y : Leaf) (e : Entry) :
    Entry.said x.path (accesses y.key) e = if y = x then [e] else [] := by
  rw [accesses_key, said_path]

theorem Leaf.key_injective : Function.Injective key := by
  intro x y h
  -- what stands in the place of the one is said about the other
  have hsaid := x.said_key x .absent
  rw [h, said_key, if_pos rfl] at hsaid
  by_contra hne
  rw [if_neg (Ne.symm hne)] at hsaid
  exact absurd hsaid (by simp)

/-- **A layer of settings** has nothing in the places of sections. -/
theorem sectioned_of_key {layer : List (String × Entry)}
    (h : ∀ p ∈ layer, ∃ x : Leaf, p.1 = x.key) : Sectioned layer := by
  intro p hp sec hsec
  obtain ⟨x, hx⟩ := h p hp
  rw [hx, x.accesses_key]
  rcases x.path_cases with ⟨k, hk, hpath⟩ | ⟨sec', hsec', k, hpath⟩
  · rw [hpath]
    exact fun heq => absurd heq (hk sec hsec)
  · rw [hpath]
    trivial

/-! ### Variables -/

/-- The name of the variable for a setting, which is the path of the setting in capitals, stands for
this setting. -/
theorem settingOf?_variableFor (x : Leaf) : settingOf? (variableFor x.path) = some x.key := by
  have hall : (variableFor x.path).toList.all (fun c => decide (c.toNat < 128)) = true := by
    cases x <;> decide +kernel
  have hascii : ∀ c ∈ (variableFor x.path).toList, c.toNat < 128 :=
    fun c hc => of_decide_eq_true (List.all_eq_true.mp hall c hc)
  rw [settingOf?, Text.lower_of_ascii hascii]
  cases x <;> decide +kernel

/-- **Variables that name settings**: if the name of one begins like that of a setting, what follows
is the path of a setting. -/
def NamesLeaves (vars : Variables) : Prop :=
  ∀ p ∈ vars, ∀ key, settingOf? p.1 = some key → ∃ x : Leaf, key = x.key

theorem sectioned_variableLayer {vars : Variables} (h : NamesLeaves vars) :
    Sectioned (variableLayer vars) := by
  refine sectioned_of_key fun p hp => ?_
  obtain ⟨⟨name, value⟩, hvar, hp⟩ := List.mem_filterMap.mp hp
  obtain ⟨key, hkey, rfl⟩ := Option.map_eq_some_iff.mp hp
  exact h _ hvar key hkey

theorem variableLayer_cons_of_none {name : String} (h : settingOf? name = none) (value : String)
    (vars : Variables) : variableLayer ((name, value) :: vars) = variableLayer vars := by
  rw [variableLayer, List.filterMap_cons_none (by simp [h]), variableLayer]

theorem variableLayer_cons_of_some {name key : String} (h : settingOf? name = some key)
    (value : String) (vars : Variables) :
    variableLayer ((name, value) :: vars) =
      (key, Entry.ofVariable value) :: variableLayer vars := by
  rw [variableLayer, List.filterMap_cons_some (by rw [Option.map_eq_some_iff]; exact ⟨key, h, rfl⟩),
    variableLayer]

/-- **What variables say about a setting** is what those say that stand for it. -/
theorem saidBy_variableLayer {vars : Variables} (h : NamesLeaves vars) (x : Leaf) :
    Entry.saidBy x.path (variableLayer vars) =
      (vars.filter fun p => settingOf? p.1 = some x.key).map fun p => Entry.ofVariable p.2 := by
  induction vars with
  | nil => rfl
  | cons p vars ih =>
    obtain ⟨hp, hvars⟩ := List.forall_mem_cons.mp h
    obtain ⟨name, value⟩ := p
    cases hkey : settingOf? name with
    | none =>
      rw [variableLayer_cons_of_none hkey, List.filter_cons_of_neg (by simp [hkey])]
      exact ih hvars
    | some key =>
      obtain ⟨y, rfl⟩ := hp key hkey
      rw [variableLayer_cons_of_some hkey, Entry.saidBy, List.flatMap_cons, x.said_key,
        ← Entry.saidBy, ih hvars]
      by_cases hyx : y = x
      · rw [if_pos hyx, List.filter_cons_of_pos (by simp [hkey, hyx])]
        rfl
      · have hne : y.key ≠ x.key := fun heq => hyx (Leaf.key_injective heq)
        rw [if_neg hyx, List.filter_cons_of_neg (by simp [hkey, hne])]
        rfl

end Rulebook.Settings
