import Rulebook.Proofs.Store.Effect

/-!
# A store in use

Several operations of a store can wait for the service at the same time, and their
replies come in any order, or not at all. A `Rulebook.Desk` is a store together with
the operations that wait, and a `Rulebook.Turn` is what can happen to it: an operation
is started, the reply to one that waits comes in, or one that waits is given up. So a
history is a list of turns, and whatever holds after every list of turns holds in
every state that a store can be brought to, whatever the service replies.

The operations that wait are told apart by their place, the one that was started
first in front. A turn that names an empty place does nothing.

## One step, said once

`Rulebook.Desk.Goes` lists what a turn can do, one constructor for each case with
everything that is known in it, and `Rulebook.Desk.goes_turn` says that a turn does
one of these things. An invariant is then proved by cases on it, without unfolding a
store operation, and `Rulebook.Desk.after_induction` carries it over a history.

The first use of that is `Rulebook.Desk.rules_after`: the collection is what the
confirmations of the history, in the order in which they came in, make of the one
before. Requests, failures and everything that was given up leave no trace in it. What
is confirmed is read off the answers that come in, each with the request that it came
for (`Rulebook.Desk.heard`).
-/

namespace Rulebook

/-! ### Spec lemmas of the store -/

namespace Store

variable {s s' : Store} {r : Request} {failure : Failure}

theorem start_of_check_error (h : s.check r = .error failure) :
    s.start r = ⟨s, .error failure, refusalLog failure⟩ := by
  rw [start, h]
  rfl

theorem start_of_enrol_error (hc : s.check r = .ok ()) (he : s.enrol r = .error failure) :
    s.start r = ⟨s, .error failure, refusalLog failure⟩ := by
  rw [start, hc, he]
  rfl

theorem start_of_enrol (hc : s.check r = .ok ()) (he : s.enrol r = .ok s') :
    s.start r = ⟨s', .ok r.call, []⟩ := by
  rw [start, hc, he]
  rfl

/-- **Starting an operation refuses it or asks the service**, and a refusal leaves
the store as it is. -/
theorem start_cases (s : Store) (r : Request) :
    (∃ failure, s.start r = ⟨s, .error failure, refusalLog failure⟩) ∨
      ∃ s', s.check r = .ok () ∧ s.enrol r = .ok s' ∧ s.start r = ⟨s', .ok r.call, []⟩ := by
  cases hc : s.check r with
  | error failure => exact Or.inl ⟨failure, start_of_check_error hc⟩
  | ok u =>
    cases he : s.enrol r with
    | error failure => exact Or.inl ⟨failure, start_of_enrol_error hc he⟩
    | ok s' => exact Or.inr ⟨s', rfl, rfl, start_of_enrol hc he⟩

/-- An operation without a target is noted nowhere. -/
theorem enrol_of_untargeted (h : r.target? = none) : s.enrol r = .ok s := by
  rw [enrol, h]
  cases s.guard? with
  | none => rfl
  | some registry => rfl

theorem enrol_of_unguarded (h : s.guard? = none) : s.enrol r = .ok s := by
  rw [enrol, h]

/-- In a guarded store it is the registry that decides about an operation with a
target. -/
theorem enrol_of_guarded {registry : InFlight.Registry} {id : RuleId}
    (hg : s.guard? = some registry) (ht : r.target? = some id) :
    s.enrol r = (registry.acquire id r.operation).map fun g => { s with guard? := some g } := by
  rw [enrol, hg, ht]
  change (registry.acquire id r.operation >>= fun g => .ok { s with guard? := some g }) = _
  cases registry.acquire id r.operation with
  | error failure => rfl
  | ok g => rfl

/-- Noting an operation touches nothing but the registry. -/
theorem rules_of_enrol (h : s.enrol r = .ok s') : s'.rules = s.rules := by
  rcases hg : s.guard? with _ | registry
  · rw [enrol_of_unguarded hg] at h
    rw [← Except.ok.inj h]
  · rcases ht : r.target? with _ | id
    · rw [enrol_of_untargeted ht] at h
      rw [← Except.ok.inj h]
    · rw [enrol_of_guarded hg ht] at h
      cases ha : registry.acquire id r.operation with
      | error failure => rw [ha] at h; cases h
      | ok g =>
        rw [ha] at h
        rw [← Except.ok.inj h]

@[simp] theorem abandon_rules (s : Store) (r : Request) : (s.abandon r).rules = s.rules := by
  rw [abandon]
  split
  · rfl
  · rfl

theorem abandon_of_untargeted (h : r.target? = none) : s.abandon r = s := by
  rw [abandon, h]
  cases s.guard? with
  | none => rfl
  | some registry => rfl

theorem abandon_of_guarded {registry : InFlight.Registry} {id : RuleId}
    (hg : s.guard? = some registry) (ht : r.target? = some id) :
    s.abandon r = { s with guard? := some (registry.release id) } := by
  rw [abandon, hg, ht]

theorem finish_of_error {reply : Reply} {lapse : CallFailure}
    (h : reply.bind r.confirm = .error lapse) :
    s.finish r reply =
      ⟨s.abandon r, .error (.call lapse), [.callFailed lapse]⟩ := by
  rw [finish, h]

theorem finish_of_ok {reply : Reply} {c : Confirmed} (h : reply.bind r.confirm = .ok c) :
    s.finish r reply = ⟨(s.abandon r).apply c, .ok c, c.log s.rules⟩ := by
  rw [finish, h, abandon_rules]

end Store

/-! ### Turns -/

/-- Something that happens to a store in use. -/
inductive Turn where
  | start (request : Request)
  /-- The reply to the operation that waits at a place comes in. -/
  | finish (place : Nat) (reply : Reply)
  /-- The operation that waits at a place is given up. -/
  | abandon (place : Nat)

/-- What a turn comes to. -/
inductive Upshot where
  /-- The operation ended before any call was made. -/
  | refused (failure : Failure)
  /-- The call was made, and the operation waits for the reply. -/
  | asked (call : Call)
  /-- The operation ended with the reply to its call. -/
  | ended (result : Except Failure Confirmed)
  | dropped
  /-- No operation waits at the place. -/
  | idle

/-- What an upshot tells that the service has done. -/
def Upshot.confirmed? : Upshot → Option Confirmed
  | .ended (.ok c) => some c
  | _ => none

/-- An answer of the service, with the request that it came for. -/
structure Heard where
  request : Request
  answer : Answer

/-- What an answer confirms, unless it is of another kind than its request asks for. -/
def Heard.confirmed? (e : Heard) : Option Confirmed := (e.request.confirm e.answer).toOption

/-- Only the answer to a load confirms a list. -/
theorem Heard.eq_of_loaded {e : Heard} {listed : List Rule}
    (h : e.confirmed? = some (.loaded listed)) : e = ⟨.load, .rules listed⟩ := by
  obtain ⟨r, a⟩ := e
  cases r <;> cases a <;> cases h
  rfl

/-- A store and the operations that wait for the reply to their call. -/
structure Desk where
  store : Store
  waiting : List Request

/-- A desk after a turn, what the turn came to, and what it wrote to the journal. -/
structure Turned where
  desk : Desk
  upshot : Upshot
  log : List Event

namespace Desk

/-- A new store, with nothing waiting. -/
def empty (guarded : Bool) : Desk := ⟨.empty guarded, []⟩

/-- What a turn does. -/
def turn (d : Desk) : Turn → Turned
  | .start r =>
    let step := d.store.start r
    match step.result with
    | .error failure => ⟨{ d with store := step.store }, .refused failure, step.log⟩
    | .ok call => ⟨⟨step.store, d.waiting ++ [r]⟩, .asked call, step.log⟩
  | .finish place reply =>
    match d.waiting[place]? with
    | none => ⟨d, .idle, []⟩
    | some r =>
      let step := d.store.finish r reply
      ⟨⟨step.store, d.waiting.eraseIdx place⟩, .ended step.result, step.log⟩
  | .abandon place =>
    match d.waiting[place]? with
    | none => ⟨d, .idle, []⟩
    | some r => ⟨⟨d.store.abandon r, d.waiting.eraseIdx place⟩, .dropped, []⟩

/-- **What a turn can do**, one constructor for each case. -/
inductive Goes (d : Desk) : Turn → Turned → Prop
  /-- The operation is refused, and nothing changes. -/
  | refused {r : Request} {failure : Failure}
      (hs : d.store.start r = ⟨d.store, .error failure, Store.refusalLog failure⟩) :
      Goes d (.start r) ⟨d, .refused failure, Store.refusalLog failure⟩
  /-- The operation is noted, and its call is made. -/
  | asked {r : Request} {store : Store} (hc : d.store.check r = .ok ())
      (he : d.store.enrol r = .ok store) :
      Goes d (.start r) ⟨⟨store, d.waiting ++ [r]⟩, .asked r.call, []⟩
  /-- The reply says that the call went wrong, or is of the wrong kind. -/
  | failed {before after : List Request} {r : Request} {reply : Reply} {lapse : CallFailure}
      (hw : d.waiting = before ++ r :: after) (hr : reply.bind r.confirm = .error lapse) :
      Goes d (.finish before.length reply)
        ⟨⟨d.store.abandon r, before ++ after⟩, .ended (.error (.call lapse)),
          [.callFailed lapse]⟩
  /-- The reply confirms the request. -/
  | confirmed {before after : List Request} {r : Request} {reply : Reply} {c : Confirmed}
      (hw : d.waiting = before ++ r :: after) (hr : reply.bind r.confirm = .ok c) :
      Goes d (.finish before.length reply)
        ⟨⟨(d.store.abandon r).apply c, before ++ after⟩, .ended (.ok c), c.log d.store.rules⟩
  /-- The operation is given up. -/
  | dropped {before after : List Request} {r : Request}
      (hw : d.waiting = before ++ r :: after) :
      Goes d (.abandon before.length) ⟨⟨d.store.abandon r, before ++ after⟩, .dropped, []⟩
  /-- Nothing waits at the place. -/
  | idle {t : Turn} : Goes d t ⟨d, .idle, []⟩

section Turns

variable {d : Desk} {before after : List Request} {r : Request}

theorem turn_start_of_refused {failure : Failure} {log : List Event}
    (h : d.store.start r = ⟨d.store, .error failure, log⟩) :
    d.turn (.start r) = ⟨d, .refused failure, log⟩ := by
  rw [turn, h]

theorem turn_start_of_asked {s : Store} {call : Call} {log : List Event}
    (h : d.store.start r = ⟨s, .ok call, log⟩) :
    d.turn (.start r) = ⟨⟨s, d.waiting ++ [r]⟩, .asked call, log⟩ := by
  rw [turn, h]

/-- An operation stands at the place behind those in front of it. -/
theorem getElem?_of_split (hw : d.waiting = before ++ r :: after) :
    d.waiting[before.length]? = some r := by
  rw [hw, List.getElem?_append_right (Nat.le_refl _), Nat.sub_self, List.getElem?_cons_zero]

theorem eraseIdx_of_split (hw : d.waiting = before ++ r :: after) :
    d.waiting.eraseIdx before.length = before ++ after := by
  rw [hw, List.eraseIdx_append_of_length_le (Nat.le_refl _), Nat.sub_self, List.eraseIdx_cons_zero]

theorem turn_finish (hw : d.waiting = before ++ r :: after) (reply : Reply) :
    d.turn (.finish before.length reply) =
      ⟨⟨(d.store.finish r reply).store, before ++ after⟩,
        .ended (d.store.finish r reply).result, (d.store.finish r reply).log⟩ := by
  rw [turn, getElem?_of_split hw, eraseIdx_of_split hw]

theorem turn_abandon (hw : d.waiting = before ++ r :: after) :
    d.turn (.abandon before.length) =
      ⟨⟨d.store.abandon r, before ++ after⟩, .dropped, []⟩ := by
  rw [turn, getElem?_of_split hw, eraseIdx_of_split hw]

/-- An operation that waits at a place has others in front of it, as many as the place
says, and behind it. -/
theorem exists_split_of_getElem? {place : Nat} (h : d.waiting[place]? = some r) :
    ∃ before after, d.waiting = before ++ r :: after ∧ before.length = place := by
  obtain ⟨hlt, hget⟩ := List.getElem?_eq_some_iff.mp h
  refine ⟨d.waiting.take place, d.waiting.drop (place + 1), ?_, ?_⟩
  · rw [← hget, List.getElem_cons_drop, List.take_append_drop]
  · rw [List.length_take, Nat.min_eq_left (Nat.le_of_lt hlt)]

end Turns

/-- **A turn does one of the things it can do.** -/
theorem goes_turn (d : Desk) (t : Turn) : d.Goes t (d.turn t) := by
  cases t with
  | start r =>
    rcases d.store.start_cases r with ⟨failure, hs⟩ | ⟨store, hc, he, hs⟩
    · rw [turn_start_of_refused hs]
      exact .refused hs
    · rw [turn_start_of_asked hs]
      exact .asked hc he
  | finish place reply =>
    cases hp : d.waiting[place]? with
    | none =>
      rw [turn, hp]
      exact .idle
    | some r =>
      obtain ⟨before, after, hw, rfl⟩ := exists_split_of_getElem? hp
      rw [turn_finish hw]
      cases hr : reply.bind r.confirm with
      | error lapse =>
        rw [Store.finish_of_error hr]
        exact .failed hw hr
      | ok c =>
        rw [Store.finish_of_ok hr]
        exact .confirmed hw hr
  | abandon place =>
    cases hp : d.waiting[place]? with
    | none =>
      rw [turn, hp]
      exact .idle
    | some r =>
      obtain ⟨before, after, hw, rfl⟩ := exists_split_of_getElem? hp
      rw [turn_abandon hw]
      exact .dropped hw

/-! ### Histories -/

/-- A desk after a history. -/
def after (d : Desk) : List Turn → Desk
  | [] => d
  | t :: ts => (d.turn t).desk.after ts

/-- The answer that a turn brings in. -/
def heard? (d : Desk) : Turn → Option Heard
  | .finish place (.ok answer) => d.waiting[place]?.map (⟨·, answer⟩)
  | _ => none

/-- The answers that come in over a history, in the order in which they do. -/
def heard (d : Desk) : List Turn → List Heard
  | [] => []
  | t :: ts => (d.heard? t).toList ++ (d.turn t).desk.heard ts

/-- What the service has done as far as the answers of a history tell. -/
def confirmed (d : Desk) (turns : List Turn) : List Confirmed :=
  (d.heard turns).filterMap Heard.confirmed?

variable {d : Desk} {t : Turn} {T : Turned}

theorem after_append (d : Desk) (ts ts' : List Turn) :
    d.after (ts ++ ts') = (d.after ts).after ts' := by
  induction ts generalizing d with
  | nil => rfl
  | cons t ts ih => exact ih (d.turn t).desk

/-- **What every turn preserves holds after every history.** -/
theorem after_induction {P : Desk → Prop} (hd : P d)
    (hstep : ∀ {d t T}, Goes d t T → P d → P T.desk) (turns : List Turn) : P (d.after turns) := by
  induction turns generalizing d with
  | nil => exact hd
  | cons t turns ih => exact ih (hstep (d.goes_turn t) hd)

/-- **A turn confirms what the answer that it brings in confirms**, and nothing if it
brings in none. -/
theorem confirmed?_turn (d : Desk) (t : Turn) :
    (d.turn t).upshot.confirmed? = (d.heard? t).bind Heard.confirmed? := by
  cases t with
  | start r =>
    rcases d.store.start_cases r with ⟨failure, hs⟩ | ⟨s, hc, he, hs⟩
    · rw [turn_start_of_refused hs]
      rfl
    · rw [turn_start_of_asked hs]
      rfl
  | finish place reply =>
    cases hp : d.waiting[place]? with
    | none =>
      have hnone : d.heard? (.finish place reply) = none := by
        cases reply with
        | error lapse => rfl
        | ok answer => rw [heard?, hp, Option.map_none]
      rw [turn, hp, hnone]
      rfl
    | some r =>
      cases reply with
      | error lapse =>
        simp only [turn, hp]
        rfl
      | ok answer =>
        rw [heard?, hp, Option.map_some, Option.bind_some, Heard.confirmed?]
        -- a reply that is an answer confirms what the answer does
        have hbind : Except.bind (.ok answer : Reply) r.confirm = r.confirm answer := rfl
        cases hr : r.confirm answer with
        | error lapse =>
          simp only [turn, hp, Store.finish_of_error (hbind.trans hr)]
          rfl
        | ok c =>
          simp only [turn, hp, Store.finish_of_ok (hbind.trans hr)]
          rfl
  | abandon place =>
    cases hp : d.waiting[place]? with
    | none =>
      rw [turn, hp]
      rfl
    | some r =>
      rw [turn, hp]
      rfl

theorem confirmed_cons (d : Desk) (t : Turn) (turns : List Turn) :
    d.confirmed (t :: turns) =
      (d.turn t).upshot.confirmed?.toList ++ (d.turn t).desk.confirmed turns := by
  rw [confirmed, heard, List.filterMap_append, confirmed?_turn]
  congr 1
  cases d.heard? t with
  | none => rfl
  | some e =>
    rw [Option.toList_some, Option.bind_some]
    cases hc : e.confirmed? with
    | none => rw [List.filterMap_cons_none hc]; rfl
    | some c => rw [List.filterMap_cons_some hc]; rfl

/-! ### The collection -/

/-- A turn changes the collection by what it confirms, if it confirms anything. -/
theorem Goes.rules (h : d.Goes t T) :
    T.desk.store.rules = T.upshot.confirmed?.toList.foldl Confirmed.settle d.store.rules := by
  cases h with
  | refused hs => rfl
  | asked hc he => exact Store.rules_of_enrol he
  | failed hw hr => exact Store.abandon_rules _ _
  | @confirmed _ _ r _ c hw hr =>
    change ((d.store.abandon r).apply c).rules = c.settle d.store.rules
    rw [Store.apply_rules, Store.abandon_rules]
  | dropped hw => exact Store.abandon_rules _ _
  | idle => rfl

/-- **The collection is what the confirmations make of it**, in the order in which
they came in: nothing else in a history has an influence on it. -/
theorem rules_after (d : Desk) (turns : List Turn) :
    (d.after turns).store.rules =
      (d.confirmed turns).foldl Confirmed.settle d.store.rules := by
  induction turns generalizing d with
  | nil => rfl
  | cons t turns ih =>
    rw [after, ih, confirmed_cons, List.foldl_append, (d.goes_turn t).rules]

end Desk

end Rulebook
