import Rulebook.Proofs.Store.Frame

/-!
# What the guard does not change

A guarded store refuses what an unguarded one would let through, and this file says that it
does nothing else. The store without its guard (`Rulebook.Store.bare`) goes through the same
turns in lockstep: as long as nothing is refused as busy, each turn comes to the same, writes
the same to the journal and leaves the same rules and snapshots behind
(`Rulebook.Desk.turn_bare`). So what can be seen of the two (`Rulebook.Desk.transcript`)
is the same up to the first refusal as busy, and throughout if there is none
(`Rulebook.Desk.guard_transparent`).

When there is none can be told from the unguarded store alone: if nobody starts to change a
rule while another change of it waits (`Rulebook.Desk.Uncontended`). The lockstep does not
need the registry to be right, but this does: an entry that was left behind would refuse
somebody who is in nobody's way, and one that was taken out too early would let somebody in
who is.
-/

namespace Rulebook

/-! ### Stores -/

namespace Store

/-- The store without its guard. -/
def bare (s : Store) : Store := { s with guard? := none }

/-- The store with a guard that has noted nothing. -/
def watched (s : Store) : Store := { s with guard? := some .empty }

variable {s s' : Store} {r : Request} {c : Confirmed}

/-- The checks do not ask whether there is a guard. -/
theorem check_bare (s : Store) (r : Request) : s.bare.check r = s.check r := by
  cases r <;> rfl

theorem bare_of_enrol (h : s.enrol r = .ok s') : s'.bare = s.bare := by
  rcases enrol_cases h with ⟨-, rfl⟩ | ⟨g, g', id, hg, ht, ha, rfl⟩
  · rfl
  · rfl

theorem bare_abandon (s : Store) (r : Request) : (s.abandon r).bare = s.bare := by
  rw [abandon]
  split
  · rfl
  · rfl

theorem abandon_bare (s : Store) (r : Request) : s.bare.abandon r = s.bare :=
  abandon_of_unguarded rfl

theorem bare_apply (s : Store) (c : Confirmed) : (s.apply c).bare = s.bare.apply c := by
  have hrules : s.bare.rules = s.rules := rfl
  rw [apply, apply, hrules]
  cases c.effect s.rules with
  | none => rfl
  | some rules => rfl

/-- **A reply does the same without a guard.** -/
theorem finish_bare (s : Store) (r : Request) (reply : Reply) :
    s.bare.finish r reply =
      ⟨(s.finish r reply).store.bare, (s.finish r reply).result, (s.finish r reply).log⟩ := by
  cases hr : reply.bind r.confirm with
  | error lapse => rw [finish_of_error hr, finish_of_error hr, abandon_bare, bare_abandon]
  | ok c =>
    rw [finish_of_ok hr, finish_of_ok hr, abandon_bare, bare_apply, bare_abandon]
    rfl

/-- **A start does the same without a guard**, unless it is refused as busy. -/
theorem start_bare (s : Store) (r : Request) :
    (∃ id op, s.start r = ⟨s, .error (.busy id op), []⟩) ∨
      s.bare.start r = ⟨(s.start r).store.bare, (s.start r).result, (s.start r).log⟩ := by
  cases hc : s.check r with
  | error failure =>
    rw [start_of_check_error hc, start_of_check_error ((check_bare s r).trans hc)]
    exact Or.inr rfl
  | ok u =>
    have hbare : s.bare.start r = ⟨s.bare, .ok r.call, []⟩ :=
      start_of_enrol ((check_bare s r).trans hc) (enrol_of_unguarded rfl)
    cases he : s.enrol r with
    | error failure =>
      -- only the registry refuses what has passed the checks
      obtain ⟨id, op, rfl⟩ := busy_of_enrol he
      exact Or.inl ⟨id, op, start_of_enrol_error hc he⟩
    | ok s' =>
      rw [start_of_enrol hc he, hbare, bare_of_enrol he]
      exact Or.inr rfl

end Store

/-! ### Turns -/

/-- Whether an operation was refused as busy. -/
def Upshot.busy : Upshot → Bool
  | refused (.busy _ _) => true
  | _ => false

namespace Desk

/-- The desk without the guard of its store. -/
def bare (d : Desk) : Desk := ⟨d.store.bare, d.waiting⟩

variable {d : Desk} {t : Turn} {g : InFlight.Registry}

/-- **One turn, with a guard and without**: unless it is refused as busy, it comes to the
same and writes the same to the journal, and the desks are the same but for the guard. -/
theorem turn_bare (h : (d.turn t).upshot.busy = false) :
    d.bare.turn t = ⟨(d.turn t).desk.bare, (d.turn t).upshot, (d.turn t).log⟩ := by
  cases t with
  | start r =>
    rcases d.store.start_bare r with ⟨id, op, hs⟩ | hs
    · rw [turn_start_of_refused hs] at h
      cases h
    · have hs' : d.bare.store.start r = _ := hs
      rw [turn, turn, hs']
      cases (d.store.start r).result with
      | error failure => rfl
      | ok call => rfl
  | finish place reply =>
    have hwaiting : d.bare.waiting = d.waiting := rfl
    rw [turn, turn, hwaiting]
    cases d.waiting[place]? with
    | none => rfl
    | some r =>
      have hs : d.bare.store.finish r reply = _ := d.store.finish_bare r reply
      simp only [hs]
      rfl
  | abandon place =>
    have hwaiting : d.bare.waiting = d.waiting := rfl
    rw [turn, turn, hwaiting]
    cases d.waiting[place]? with
    | none => rfl
    | some r =>
      have hs : d.bare.store.abandon r = (d.store.abandon r).bare := by
        rw [Store.bare_abandon]
        exact d.store.abandon_bare r
      simp only [hs]
      rfl

end Desk

/-! ### What is seen of a history -/

/-- What can be seen of a turn: what it came to – the call that was made, or what the caller
is told –, what it wrote to the journal, and what the store shows afterwards. -/
structure Sight where
  upshot : Upshot
  log : List Event
  rules : List Rule
  snapshot : List Rule
  published : Nat

/-- What can be seen of a turn. -/
def Turned.sight (T : Turned) : Sight :=
  ⟨T.upshot, T.log, T.desk.store.rules, T.desk.store.snapshot, T.desk.store.published⟩

namespace Desk

/-- What can be seen of a history, turn by turn. -/
def transcript (d : Desk) : List Turn → List Sight
  | [] => []
  | t :: ts => (d.turn t).sight :: (d.turn t).desk.transcript ts

variable {d : Desk} {t : Turn} {turns : List Turn} {g : InFlight.Registry}

/-- A turn that is not refused as busy looks the same without a guard, and so the rest of
the history is seen from the same desk without a guard. -/
theorem transcript_bare_cons (h : (d.turn t).upshot.busy = false) (turns : List Turn) :
    d.bare.transcript (t :: turns) =
      (d.turn t).sight :: (d.turn t).desk.bare.transcript turns := by
  rw [transcript, turn_bare h]
  rfl

/-- **Up to the first refusal as busy** the same is seen with a guard and without. -/
theorem transcript_isPrefix_bare (d : Desk) (turns : List Turn) :
    (d.transcript turns).takeWhile (! ·.upshot.busy) <+: d.bare.transcript turns := by
  induction turns generalizing d with
  | nil => exact List.prefix_rfl
  | cons t turns ih =>
    have hsight : (d.turn t).sight.upshot = (d.turn t).upshot := rfl
    rw [transcript, List.takeWhile_cons, hsight]
    cases hb : (d.turn t).upshot.busy with
    | true => exact List.nil_prefix
    | false =>
      rw [transcript_bare_cons hb]
      exact List.cons_prefix_cons.mpr ⟨rfl, ih _⟩

/-- Without a refusal as busy the same is seen throughout. -/
theorem transcript_bare (h : ∀ e ∈ d.transcript turns, e.upshot.busy = false) :
    d.bare.transcript turns = d.transcript turns := by
  induction turns generalizing d with
  | nil => rfl
  | cons t turns ih =>
    rw [transcript, List.forall_mem_cons] at h
    rw [transcript_bare_cons h.1, ih h.2, transcript]

/-! ### Contention -/

/-- Whether a turn starts to change a rule while another change of it waits. -/
def Contended (d : Desk) : Turn → Prop
  | .start r =>
    d.store.check r = .ok () ∧ ∃ q ∈ d.waiting, ∃ x, r.target? = some x ∧ q.target? = some x
  | _ => False

/-- Whether no turn of a history is contended. -/
def Uncontended (d : Desk) : List Turn → Prop
  | [] => True
  | t :: ts => ¬d.Contended t ∧ (d.turn t).desk.Uncontended ts

/-- **Who is refused as busy is contended, and nobody else.** -/
theorem Guarded.busy_iff (h : d.Guarded g) (t : Turn) :
    (d.turn t).upshot.busy = true ↔ d.Contended t := by
  cases t with
  | start r =>
    cases hc : d.store.check r with
    | error failure =>
      rw [turn_start_of_refused (Store.start_of_check_error hc), Contended, hc]
      refine iff_of_false (fun hb => ?_) fun hcon => by cases hcon.1
      rcases Store.check_error_cases hc with rfl | rfl | ⟨x, rfl⟩ <;> cases hb
    | ok u =>
      cases ht : r.target? with
      | none =>
        rw [turn_start_of_asked (Store.start_of_enrol hc (Store.enrol_of_untargeted ht)),
          Contended, ht]
        refine iff_of_false (fun hb => by cases hb) ?_
        rintro ⟨-, q, hq, x, hx, -⟩
        cases hx
      | some x =>
        rw [Contended, ht]
        rcases h.start_present ht hc with ⟨q, hq, hqt, hs⟩ | ⟨hno, hasked⟩
        · rw [turn_start_of_refused hs]
          exact iff_of_true rfl ⟨hc, q, hq, x, rfl, hqt⟩
        · rw [hasked]
          refine iff_of_false (fun hb => by cases hb) ?_
          rintro ⟨-, q, hq, y, hy, hqt⟩
          obtain rfl : x = y := Option.some.inj hy
          exact hno q hq hqt
  | finish place reply =>
    refine iff_of_false (fun hb => ?_) id
    rw [turn] at hb
    split at hb <;> cases hb
  | abandon place =>
    refine iff_of_false (fun hb => ?_) id
    rw [turn] at hb
    split at hb <;> cases hb

theorem contended_bare (d : Desk) (t : Turn) : d.bare.Contended t ↔ d.Contended t := by
  cases t with
  | start r =>
    have hcheck : d.bare.store.check r = d.store.check r := d.store.check_bare r
    rw [Contended, Contended, hcheck]
    rfl
  | finish place reply => rfl
  | abandon place => rfl

/-- **Nobody is refused as busy** exactly if the unguarded desk sees no contention. -/
theorem Guarded.forall_busy_iff (h : d.Guarded g) (turns : List Turn) :
    (∀ e ∈ d.transcript turns, e.upshot.busy = false) ↔ d.bare.Uncontended turns := by
  induction turns generalizing d g with
  | nil => exact iff_of_true (fun e he => by cases he) trivial
  | cons t turns ih =>
    obtain ⟨g', hg'⟩ := h.goes (d.goes_turn t)
    rw [transcript, List.forall_mem_cons, Uncontended, contended_bare, ← h.busy_iff,
      Bool.not_eq_true]
    refine and_congr_right fun hb => ?_
    have hb' : (d.turn t).upshot.busy = false := hb
    rw [turn_bare hb']
    exact ih hg'

/-- **The guard is transparent.** Let any list of turns be run from any collection, with
nothing waiting, in a guarded store and in an unguarded one:

* up to the first refusal as busy, each turn comes to the same – the same call, the same
  result –, writes the same to the journal and leaves the same rules, the same snapshot and
  the same number of publications;
* if nothing is refused as busy, this is so throughout;
* and nothing is if, in the unguarded store, nobody starts to change a rule while another
  change of it waits, and only then. -/
theorem guard_transparent (s : Store) (turns : List Turn) :
    let guarded : Desk := ⟨s.watched, []⟩
    let unguarded : Desk := ⟨s.bare, []⟩
    (guarded.transcript turns).takeWhile (! ·.upshot.busy) <+: unguarded.transcript turns ∧
    ((∀ e ∈ guarded.transcript turns, e.upshot.busy = false) →
      guarded.transcript turns = unguarded.transcript turns) ∧
    ((∀ e ∈ guarded.transcript turns, e.upshot.busy = false) ↔
      unguarded.Uncontended turns) := by
  intro guarded unguarded
  have hbare : guarded.bare = unguarded := rfl
  have hguarded : guarded.Guarded .empty := ⟨rfl, rfl, List.nodup_nil⟩
  rw [← hbare]
  exact ⟨transcript_isPrefix_bare guarded turns, fun h => (transcript_bare h).symm,
    hguarded.forall_busy_iff turns⟩

/-- Changes of two rules overlap, and a rule is deleted once its switch has ended: nothing is
refused, so the guard cannot be seen. -/
theorem guard_transparent_overlapping :
    let s : Store := ⟨[⟨⟨"a"⟩, "p", true⟩, ⟨⟨"b"⟩, "q", true⟩], [], 1, none⟩
    let turns : List Turn :=
      [.start (.toggle ⟨"a"⟩), .start (.update ⟨"b"⟩ "t"), .finish 0 (.ok (.status false)),
        .start (.delete ⟨"a"⟩), .finish 1 (.ok .done), .finish 0 (.ok .done)]
    (∀ e ∈ transcript ⟨s.watched, []⟩ turns, e.upshot.busy = false) ∧
      transcript ⟨s.watched, []⟩ turns = transcript ⟨s.bare, []⟩ turns := by
  intro s turns
  have hfree : ∀ e ∈ transcript ⟨s.watched, []⟩ turns, e.upshot.busy = false := by decide
  exact ⟨hfree, (guard_transparent s turns).2.1 hfree⟩

end Desk

end Rulebook
