import Mathlib.Data.List.Induction
import Rulebook.Proofs.InFlight

/-!
# Permits

Whoever is let in by a registry holds a permit until it is given back. The registry knows nothing
of permits, and a permit nothing of its entry: when one is given back, whatever entry its rule has
by then is taken out. That this is the entry of the permit, and not one that was made later for
somebody else, is what this file is about.

What is held is a matter of the history alone (`Rulebook.InFlight.Book.Held`): a permit is held
from the move at which it was granted, until a move gives back what is kept under its name. A book
has two columns of that, the entries of its registry and what it keeps under the names, and the
invariant is that they belong together (`Rulebook.InFlight.Book.Records`): both are read off one
list of permits, in which neither a rule nor a name stands twice. So to take out the entry of a
rule is to take out the permit of a name (`Rulebook.InFlight.Book.release_columns`).
-/

namespace Rulebook.InFlight

/-- Something that is done with a registry: a permit is asked for, to be kept under a name, or the
permit of a name is given back. -/
inductive Move where
  | acquire (name : String) (id : RuleId) (operation : Operation)
  | release (name : String)

/-- A permit: the name under which it is kept, and the rule and the operation that it is for. -/
structure Permit where
  name : String
  id : RuleId
  operation : Operation

namespace Permit

/-- The entry of a permit in the registry. -/
def entry (p : Permit) : RuleId × Operation := (p.id, p.operation)

/-- What a book keeps of a permit. -/
def slip (p : Permit) : String × RuleId := (p.name, p.id)

/-- The move that asks for a permit. -/
def request (p : Permit) : Move := .acquire p.name p.id p.operation

end Permit

namespace Book

/-! ### Histories -/

/-- A book after a move. Where a permit is refused, the book stays as it is. -/
def move (b : Book) : Move → Book
  | .acquire name id operation =>
    match b.acquire name id operation with
    | .ok b' => b'
    | .error _ => b
  | .release name => b.release name

/-- A book after a history. -/
def after (b : Book) : List Move → Book
  | [] => b
  | m :: moves => (b.move m).after moves

/-- **A permit is granted** at a move that asks for it. -/
def Grants (b : Book) (p : Permit) (m : Move) : Prop :=
  m = p.request ∧ ∃ b', b.acquire p.name p.id p.operation = .ok b'

/-- **What is kept under a name is given back** at a move: it says so, or another permit is granted
and takes its place. -/
def Returns (b : Book) (name : String) (m : Move) : Prop :=
  m = .release name ∨ ∃ p, b.Grants p m ∧ p.name = name

/-- What is kept under a name is not given back over a history. -/
def Keeps (b : Book) (name : String) : List Move → Prop
  | [] => True
  | m :: moves => ¬b.Returns name m ∧ (b.move m).Keeps name moves

/-- **A permit is held** after a history that begins without permits: it was granted at one of the
moves, and was not given back since. -/
def Held (moves : List Move) (p : Permit) : Prop :=
  ∃ before m since, moves = before ++ m :: since ∧ (empty.after before).Grants p m ∧
    (empty.after (before ++ [m])).Keeps p.name since

variable {b : Book} {name : String} {id : RuleId} {op op' : Operation} {p : Permit} {m : Move}
  {moves later : List Move} {live : List Permit}

theorem after_append (b : Book) (moves later : List Move) :
    b.after (moves ++ later) = (b.after moves).after later := by
  induction moves generalizing b with
  | nil => rfl
  | cons m moves ih => exact ih (b.move m)

theorem keeps_append :
    b.Keeps name (moves ++ later) ↔ b.Keeps name moves ∧ (b.after moves).Keeps name later := by
  induction moves generalizing b with
  | nil => exact (and_iff_right trivial).symm
  | cons m moves ih => rw [List.cons_append, Keeps, Keeps, ih, and_assoc, after]

/-- A permit stays held as long as it is not given back. -/
theorem Held.append (h : Held moves p) (hkeeps : (empty.after moves).Keeps p.name later) :
    Held (moves ++ later) p := by
  obtain ⟨before, m, since, rfl, hgrants, hsince⟩ := h
  refine ⟨before, m, since ++ later, by rw [List.append_assoc, List.cons_append], hgrants, ?_⟩
  rw [List.append_cons, after_append] at hkeeps
  exact keeps_append.mpr ⟨hsince, hkeeps⟩

theorem not_held_nil : ¬Held [] p := by
  rintro ⟨before, m, since, hnil, -⟩
  cases before <;> cases hnil

/-- **What is held after one more move**: what is granted there, and what was held and is not given
back. -/
theorem held_concat :
    Held (moves ++ [m]) p ↔
      (empty.after moves).Grants p m ∨ Held moves p ∧ ¬(empty.after moves).Returns p.name m := by
  constructor
  · rintro ⟨before, m', since, hsplit, hgrants, hsince⟩
    rcases List.eq_nil_or_concat since with rfl | ⟨since, m'', rfl⟩
    · obtain ⟨rfl, hm⟩ := List.append_inj' hsplit rfl
      cases hm
      exact Or.inl hgrants
    · rw [List.concat_eq_append, ← List.cons_append, ← List.append_assoc] at hsplit
      obtain ⟨rfl, hm⟩ := List.append_inj' hsplit rfl
      cases hm
      rw [List.concat_eq_append, keeps_append, ← after_append, List.append_assoc,
        List.singleton_append] at hsince
      exact Or.inr ⟨⟨before, m', since, rfl, hgrants, hsince.1⟩, hsince.2.1⟩
  · rintro (hgrants | ⟨hheld, hnot⟩)
    · exact ⟨moves, m, [], rfl, hgrants, trivial⟩
    · exact hheld.append ⟨hnot, trivial⟩

/-! ### Two columns of one list -/

/-- The permits that are left when what is kept under a name is given back. -/
def without (name : String) (live : List Permit) : List Permit := live.filter (·.name != name)

theorem mem_without : p ∈ without name live ↔ p ∈ live ∧ p.name ≠ name := by
  rw [without, List.mem_filter, bne_iff_ne]

theorem map_without_sublist {α : Type} (f : Permit → α) :
    ((without name live).map f).Sublist (live.map f) :=
  List.filter_sublist.map f

/-- **The invariant of a book**: its entries and what it keeps are two columns of one list of
permits, in which no rule and no name stands twice. -/
structure Records (b : Book) (live : List Permit) : Prop where
  entries : b.registry.entries = live.map Permit.entry
  permits : b.permits = live.map Permit.slip
  ids : (live.map Permit.id).Nodup
  names : (live.map Permit.name).Nodup

theorem Records.eq (h : b.Records live) : b = ⟨⟨live.map Permit.entry⟩, live.map Permit.slip⟩ := by
  obtain ⟨⟨entries⟩, permits⟩ := b
  obtain ⟨rfl, rfl, -, -⟩ := h
  rfl

/-- What is kept under a name is found in the list of permits. -/
theorem permit?_columns (g : Registry) (live : List Permit) (name : String) :
    permit? ⟨g, live.map Permit.slip⟩ name = (live.find? (·.name == name)).map Permit.id := by
  rw [permit?, List.find?_map, Option.map_map]
  rfl

/-- Among the permits, the rule and the name tell the same one. -/
theorem filter_id_eq_without (hids : (live.map Permit.id).Nodup)
    (hnames : (live.map Permit.name).Nodup) (hp : p ∈ live) :
    live.filter (·.id != p.id) = without p.name live := by
  refine List.filter_congr fun q hq => ?_
  have hiff : q.id = p.id ↔ q.name = p.name :=
    ⟨fun h => congrArg Permit.name (List.inj_on_of_nodup_map hids hq hp h),
      fun h => congrArg Permit.id (List.inj_on_of_nodup_map hnames hq hp h)⟩
  rw [Bool.eq_iff_iff, bne_iff_ne, bne_iff_ne, Ne, Ne, hiff]

/-- **To take out the entries of a rule is to take out the permit of a name**, if both are those of
one permit. Entries of other rules, that belong to none of the permits, stay. -/
theorem release_columns (hids : (live.map Permit.id).Nodup) (hnames : (live.map Permit.name).Nodup)
    {others : List (RuleId × Operation)} (hothers : ∀ e ∈ others, e.1 ∉ live.map Permit.id)
    (name : String) :
    Book.release ⟨⟨live.map Permit.entry ++ others⟩, live.map Permit.slip⟩ name =
      ⟨⟨(without name live).map Permit.entry ++ others⟩, (without name live).map Permit.slip⟩ := by
  rw [Book.release, permit?_columns]
  cases hfind : live.find? (·.name == name) with
  | none =>
    have hwithout : without name live = live :=
      List.filter_eq_self.mpr fun p hp => by simpa using List.find?_eq_none.mp hfind p hp
    rw [hwithout]
    rfl
  | some p =>
    have hp : p ∈ live := List.mem_of_find?_eq_some hfind
    obtain rfl : p.name = name := by simpa using List.find?_some hfind
    have hentries : (live.map Permit.entry).filter (·.1 != p.id) =
        (without p.name live).map Permit.entry := by
      rw [List.filter_map, ← filter_id_eq_without hids hnames hp]
      rfl
    have hslips : (live.map Permit.slip).filter (·.1 != p.name) =
        (without p.name live).map Permit.slip := by
      rw [List.filter_map]
      rfl
    have hstay : others.filter (·.1 != p.id) = others := by
      refine List.filter_eq_self.mpr fun e he => bne_iff_ne.mpr fun hid => ?_
      exact hothers e he (hid ▸ List.mem_map_of_mem hp)
    simp only [Option.map_some, Registry.release, List.filter_append, hentries, hslips, hstay]

/-! ### One move -/

/-- Giving back what is kept under a name takes it out of both columns. -/
theorem Records.release (h : b.Records live) (name : String) :
    (b.release name).Records (without name live) := by
  have hcolumns := release_columns h.ids h.names (List.forall_mem_nil _) name
  rw [List.append_nil, List.append_nil] at hcolumns
  rw [h.eq, hcolumns]
  exact ⟨rfl, rfl, h.ids.sublist (map_without_sublist _), h.names.sublist (map_without_sublist _)⟩

theorem Records.busyIds (h : b.Records live) : b.registry.busyIds = live.map Permit.id := by
  rw [Registry.busyIds, h.entries, List.map_map]
  rfl

/-- A permit is refused where the registry refuses the entry. -/
theorem acquire_of_busy (h : b.registry.operationOn? id = some op') :
    b.acquire name id op = .error (.busy id op') := by
  rw [Book.acquire, Registry.acquire_of_busy h]
  rfl

/-- Where the registry makes the entry, what was kept under the name is given back and the new
permit is kept. -/
theorem acquire_of_registry {g : Registry} (h : b.registry.acquire id op = .ok g) :
    b.acquire name id op = .ok ⟨(Book.release ⟨g, b.permits⟩ name).registry,
      (Book.release ⟨g, b.permits⟩ name).permits ++ [(name, id)]⟩ := by
  rw [Book.acquire, h]
  rfl

/-- **A permit on a rule without an entry is granted**, and comes behind the others in both
columns. -/
theorem Records.acquire (h : b.Records live) (hfree : id ∉ live.map Permit.id) (name : String)
    (op : Operation) :
    ∃ b', b.acquire name id op = .ok b' ∧
      b'.Records (without name live ++ [⟨name, id, op⟩]) := by
  have hregistry : b.registry.acquire id op = .ok ⟨live.map Permit.entry ++ [(id, op)]⟩ := by
    rw [Registry.acquire_eq_ok_iff, h.busyIds, h.entries]
    exact ⟨hfree, rfl⟩
  refine ⟨_, acquire_of_registry hregistry, ?_⟩
  rw [h.permits, release_columns h.ids h.names (by simpa using hfree) name]
  have hids : id ∉ (without name live).map Permit.id := fun hid =>
    hfree ((map_without_sublist _).mem hid)
  have hnames : name ∉ (without name live).map Permit.name := by
    intro hmem
    obtain ⟨p, hp, hname⟩ := List.mem_map.mp hmem
    exact (mem_without.mp hp).2 hname
  refine ⟨?_, ?_, ?_, ?_⟩
  · rw [List.map_append]
    rfl
  · rw [List.map_append]
    rfl
  · rw [List.map_append, List.map_singleton, ← List.concat_eq_append]
    exact (h.ids.sublist (map_without_sublist _)).concat hids
  · rw [List.map_append, List.map_singleton, ← List.concat_eq_append]
    exact (h.names.sublist (map_without_sublist _)).concat hnames

theorem grants_acquire_iff :
    b.Grants p (.acquire name id op) ↔
      p = ⟨name, id, op⟩ ∧ ∃ b', b.acquire name id op = .ok b' := by
  constructor
  · rintro ⟨hrequest, hok⟩
    cases hrequest
    exact ⟨rfl, hok⟩
  · rintro ⟨rfl, hok⟩
    exact ⟨rfl, hok⟩

theorem not_grants_release : ¬b.Grants p (.release name) := by
  rintro ⟨hrequest, -⟩
  cases hrequest

theorem returns_acquire_iff :
    b.Returns p.name (.acquire name id op) ↔
      p.name = name ∧ ∃ b', b.acquire name id op = .ok b' := by
  constructor
  · rintro (hm | ⟨q, hgrants, hname⟩)
    · cases hm
    · obtain ⟨rfl, hok⟩ := grants_acquire_iff.mp hgrants
      exact ⟨hname.symm, hok⟩
  · rintro ⟨hname, hok⟩
    exact Or.inr ⟨⟨name, id, op⟩, grants_acquire_iff.mpr ⟨rfl, hok⟩, hname.symm⟩

theorem returns_release_iff : b.Returns p.name (.release name) ↔ p.name = name := by
  constructor
  · rintro (hm | ⟨q, hgrants, -⟩)
    · cases hm
      rfl
    · exact absurd hgrants not_grants_release
  · rintro rfl
    exact Or.inl rfl

/-- **Every move preserves the invariant**, and makes of the permits what its grants and returns
make of them. -/
theorem Records.move (h : b.Records live) (m : Move) :
    ∃ live', (b.move m).Records live' ∧
      ∀ p, p ∈ live' ↔ b.Grants p m ∨ p ∈ live ∧ ¬b.Returns p.name m := by
  cases m with
  | release name =>
    refine ⟨without name live, h.release name, fun p => ?_⟩
    rw [mem_without, returns_release_iff, or_iff_right not_grants_release]
  | acquire name id op =>
    by_cases hid : id ∈ live.map Permit.id
    · -- the rule has an entry, so the permit is refused, and nothing happens
      obtain ⟨op', hop⟩ := Registry.exists_operationOn? (h.busyIds ▸ hid)
      have herror : b.acquire name id op = .error (.busy id op') := acquire_of_busy hop
      have hno : ¬∃ b', b.acquire name id op = .ok b' := by
        rintro ⟨b', hb'⟩
        cases herror.symm.trans hb'
      refine ⟨live, by rw [Book.move, herror]; exact h, fun p => ?_⟩
      rw [grants_acquire_iff, returns_acquire_iff, or_iff_right fun hp => hno hp.2,
        and_iff_left fun hp => hno hp.2]
    · obtain ⟨b', hb', hrecords⟩ := h.acquire hid name op
      have hok : ∃ b', b.acquire name id op = .ok b' := ⟨b', hb'⟩
      refine ⟨_, by rw [Book.move, hb']; exact hrecords, fun p => ?_⟩
      rw [List.mem_append, List.mem_singleton, mem_without, grants_acquire_iff,
        returns_acquire_iff, and_iff_left hok, and_iff_left hok, or_comm]

/-! ### All moves -/

/-- **The invariant holds after every history**, and the permits are those that are held. -/
theorem exists_records_after (moves : List Move) :
    ∃ live, (empty.after moves).Records live ∧ ∀ p, p ∈ live ↔ Held moves p := by
  induction moves using List.reverseRecOn with
  | nil =>
    exact ⟨[], ⟨rfl, rfl, List.nodup_nil, List.nodup_nil⟩,
      fun p => iff_of_false List.not_mem_nil not_held_nil⟩
  | append_singleton moves m ih =>
    obtain ⟨live, hrecords, hlive⟩ := ih
    obtain ⟨live', hrecords', hlive'⟩ := hrecords.move m
    refine ⟨live', ?_, fun p => ?_⟩
    · rw [after_append]
      exact hrecords'
    · rw [hlive', held_concat, hlive]

/-! ### What the invariant says -/

theorem Records.operationOn?_eq_some_iff (h : b.Records live) :
    b.registry.operationOn? id = some op ↔ ∃ p ∈ live, p.id = id ∧ p.operation = op := by
  have hnodup : b.registry.busyIds.Nodup := h.busyIds ▸ h.ids
  rw [Registry.operationOn?_eq_some_iff hnodup, h.entries, List.mem_map]
  simp only [Permit.entry, Prod.mk.injEq]

theorem Records.busy_iff (h : b.Records live) :
    b.registry.busy id = true ↔ id ∈ live.map Permit.id := by
  rw [Registry.busy, ← h.busyIds, ← not_iff_not, ← Registry.operationOn?_eq_none_iff,
    Option.not_isSome_iff_eq_none]

/-- **What is kept under a name** is the permit of this name. -/
theorem Records.permit?_eq_some_iff (h : b.Records live) :
    b.permit? name = some id ↔ ∃ p ∈ live, p.name = name ∧ p.id = id := by
  have hpermit : b.permit? name = (live.find? (·.name == name)).map Permit.id := by
    rw [h.eq, permit?_columns]
  rw [hpermit, Option.map_eq_some_iff]
  constructor
  · rintro ⟨p, hfind, rfl⟩
    exact ⟨p, List.mem_of_find?_eq_some hfind, by simpa using List.find?_some hfind, rfl⟩
  · rintro ⟨p, hp, rfl, rfl⟩
    cases hfind : live.find? (·.name == p.name) with
    | none => exact absurd (beq_self_eq_true _) (List.find?_eq_none.mp hfind p hp)
    | some q =>
      have hname : q.name = p.name := by simpa using List.find?_some hfind
      have hq : q ∈ live := List.mem_of_find?_eq_some hfind
      exact ⟨q, rfl, congrArg Permit.id (List.inj_on_of_nodup_map h.names hq hp hname)⟩

/-- **Who is refused**: whoever asks for a rule of which a permit is held, and the operation of
this permit is named. -/
theorem Records.acquire_eq_error_iff (h : b.Records live) {failure : Failure} :
    b.registry.acquire id op = .error failure ↔
      ∃ p ∈ live, p.id = id ∧ failure = .busy id p.operation := by
  cases ho : b.registry.operationOn? id with
  | none =>
    rw [Registry.acquire_of_free ho]
    refine iff_of_false (by rintro ⟨⟩) ?_
    rintro ⟨p, hp, rfl, -⟩
    cases ho.symm.trans (h.operationOn?_eq_some_iff.mpr ⟨p, hp, rfl, rfl⟩)
  | some op' =>
    rw [Registry.acquire_of_busy ho]
    constructor
    · intro he
      obtain ⟨p, hp, hid, rfl⟩ := h.operationOn?_eq_some_iff.mp ho
      exact ⟨p, hp, hid, (Except.error.inj he).symm⟩
    · rintro ⟨p, hp, rfl, rfl⟩
      cases ho.symm.trans (h.operationOn?_eq_some_iff.mpr ⟨p, hp, rfl, rfl⟩)
      rfl

/-- A book refuses a permit exactly where its registry refuses the entry, for the same reason. -/
theorem refused_iff_registry {failure : Failure} :
    b.acquire name id op = .error failure ↔ b.registry.acquire id op = .error failure := by
  cases hregistry : b.registry.acquire id op with
  | error failure' =>
    rw [Book.acquire, hregistry]
    exact ⟨fun h => congrArg _ (Except.error.inj h), fun h => congrArg _ (Except.error.inj h)⟩
  | ok g =>
    rw [acquire_of_registry hregistry]
    exact iff_of_false (by rintro ⟨⟩) (by rintro ⟨⟩)

/-- **Who is let in**: whoever asks for a rule of which no permit is held. -/
theorem Records.exists_acquire_iff (h : b.Records live) :
    (∃ b', b.acquire name id op = .ok b') ↔ id ∉ live.map Permit.id := by
  constructor
  · rintro ⟨b', hb'⟩ hid
    obtain ⟨p, hp, rfl⟩ := List.mem_map.mp hid
    have herror : b.acquire name p.id op = .error (.busy p.id p.operation) :=
      refused_iff_registry.mpr (h.acquire_eq_error_iff.mpr ⟨p, hp, rfl, rfl⟩)
    cases hb'.symm.trans herror
  · intro hfree
    obtain ⟨b', hb', -⟩ := h.acquire hfree name op
    exact ⟨b', hb'⟩

/-- **A permit that is given back** takes its own entry out, and no other. -/
theorem Records.operationOn?_release (h : b.Records live) (hp : p ∈ live) (id : RuleId) :
    (b.release p.name).registry.operationOn? id =
      if id = p.id then none else b.registry.operationOn? id := by
  have hpermit : b.permit? p.name = some p.id := h.permit?_eq_some_iff.mpr ⟨p, hp, rfl, rfl⟩
  rw [Book.release, hpermit]
  exact Registry.operationOn?_release b.registry p.id id

/-! ### The main result -/

/-- **A registry is a lock for each rule.** After every history of moves on a registry that was
empty, there is a list of the permits that are held: those that were granted and not given back
since. No rule has two of them, and what a book keeps under a name is the permit of this name.

* The rules with an entry are those of the permits, there are as many entries as permits, and the
  registry is empty exactly if no permit is held.
* The operation of an entry is the one for which the permit of the rule was granted.
* A permit is granted exactly if none of its rule is held. Otherwise it is refused, by the book as
  by its registry, with the operation of the permit that is held, and nothing changes.
* A permit that is given back takes out its own entry and no other, and its rule can be acquired
  again at once.
* A permit that is held keeps its entry until it is given back itself, whatever else is granted and
  given back meanwhile; and what was given back before takes out nothing any more. -/
theorem permits_exclusive_after (moves : List Move) :
    let b := empty.after moves
    ∃ live : List Permit, (∀ p, p ∈ live ↔ Held moves p) ∧ (live.map Permit.id).Nodup ∧
      (∀ name id, b.permit? name = some id ↔ ∃ p ∈ live, p.name = name ∧ p.id = id) ∧
      (∀ id, b.registry.busy id = true ↔ id ∈ live.map Permit.id) ∧
      b.registry.size = live.length ∧ (b.registry.isEmpty = true ↔ live = []) ∧
      (∀ id op, b.registry.operationOn? id = some op ↔ ∃ p ∈ live, p.id = id ∧ p.operation = op) ∧
      (∀ name id op,
        ((∃ b', b.acquire name id op = .ok b') ↔ id ∉ live.map Permit.id) ∧
        (∀ failure, b.acquire name id op = .error failure ↔
          ∃ p ∈ live, p.id = id ∧ failure = .busy id p.operation) ∧
        (∀ failure, b.registry.acquire id op = .error failure ↔
          ∃ p ∈ live, p.id = id ∧ failure = .busy id p.operation) ∧
        (id ∈ live.map Permit.id → b.move (.acquire name id op) = b)) ∧
      (∀ p ∈ live,
        (∀ id, (b.release p.name).registry.operationOn? id =
          if id = p.id then none else b.registry.operationOn? id) ∧
        ∀ name op, ∃ b', (b.release p.name).acquire name p.id op = .ok b') ∧
      (∀ p ∈ live, ∀ later, b.Keeps p.name later →
        (b.after later).registry.operationOn? p.id = some p.operation) ∧
      ∀ name, (∀ p ∈ live, p.name ≠ name) → b.release name = b := by
  intro b
  obtain ⟨live, h, hlive⟩ := exists_records_after moves
  refine ⟨live, hlive, h.ids, fun name id => h.permit?_eq_some_iff, fun id => h.busy_iff, ?_, ?_,
    fun id op => h.operationOn?_eq_some_iff, fun name id op => ⟨h.exists_acquire_iff,
      fun f => refused_iff_registry.trans h.acquire_eq_error_iff,
      fun f => h.acquire_eq_error_iff, ?_⟩,
    fun p hp => ⟨h.operationOn?_release hp, fun name op => ?_⟩, fun p hp later hkeeps => ?_,
    fun name hname => ?_⟩
  · rw [Registry.size, h.entries, List.length_map]
  · rw [Registry.isEmpty, h.entries, List.isEmpty_iff, List.map_eq_nil_iff]
  · intro hid
    obtain ⟨p, hp, rfl⟩ := List.mem_map.mp hid
    have hop := h.operationOn?_eq_some_iff.mpr ⟨p, hp, rfl, rfl⟩
    rw [move, acquire_of_busy hop]
  · have hfree : p.id ∉ (without p.name live).map Permit.id := by
      rw [← (h.release p.name).busyIds, ← Registry.operationOn?_eq_none_iff,
        h.operationOn?_release hp, if_pos rfl]
    obtain ⟨b', hb', -⟩ := (h.release p.name).acquire hfree name op
    exact ⟨b', hb'⟩
  · -- the permit is still held, and so it still has its entry
    have hheld : Held (moves ++ later) p := ((hlive p).mp hp).append hkeeps
    obtain ⟨live', h', hlive'⟩ := exists_records_after (moves ++ later)
    rw [after_append] at h'
    exact h'.operationOn?_eq_some_iff.mpr ⟨p, (hlive' p).mpr hheld, rfl, rfl⟩
  · have hnone : b.permit? name = none := by
      by_contra hsome
      obtain ⟨id, hid⟩ := Option.ne_none_iff_exists'.mp hsome
      obtain ⟨p, hp, hpname, -⟩ := h.permit?_eq_some_iff.mp hid
      exact hname p hp hpname
    rw [release, hnone]

/-- A permit that was given back is no threat to the one that was granted after it. -/
example :
    (empty.after [.acquire "a" ⟨"r1"⟩ .toggleStatus, .acquire "b" ⟨"r1"⟩ .deleteRule, .release "a",
      .acquire "b" ⟨"r1"⟩ .deleteRule, .release "a"]).registry.operationOn? ⟨"r1"⟩ =
        some .deleteRule := by decide

end Book

end Rulebook.InFlight
