import Mathlib.Data.Set.Insert
import Mathlib.Logic.Function.Basic
import Mathlib.Logic.Relation
import Rulebook.Proofs.Store.Exclusion

/-!
# A store and a service at work together

Here the service is not a source of arbitrary replies but a partner with a state of
its own: it holds a content for each identifier that is in use
(`Rulebook.Holdings`), and it handles a request in one go, some time between the start
of the operation and the delivery of the reply (`Rulebook.Holdings.Handles`). What it
refuses has no effect, and an identifier that it gives to a new rule was never in use
before.

A call in flight (`Rulebook.Pending`) is first without a reply and then with the one
that the service has given. `Rulebook.Exchange.Step` says what can happen next – an
operation is refused or sent, a request is handled, a reply is delivered – and leaves
the order open in every respect but one: a load is in flight only alone.
-/

namespace Rulebook

open Rule

/-! ### The service -/

/-- What the service holds: the content of each rule, and the identifiers that were ever
in use. -/
structure Holdings where
  holds : RuleId → Option Content
  used : Set RuleId

namespace Holdings

/-- The holdings with the content of one rule replaced, or taken out. -/
def put (h : Holdings) (x : RuleId) (v? : Option Content) : Holdings :=
  { h with holds := Function.update h.holds x v? }

/-- The holdings with a rule under an identifier that counts as used from now on. -/
def enter (h : Holdings) (x : RuleId) (v : Content) : Holdings :=
  { h.put x (some v) with used := insert x h.used }

/-- **How the service handles a request**: the reply it gives and what it holds
afterwards. -/
inductive Handles (h : Holdings) : Request → Reply → Holdings → Prop
  /-- Any request may fail, and then has no effect. -/
  | refuse {r : Request} {lapse : CallFailure} : Handles h r (.error lapse) h
  /-- A list says of each identifier what the service holds. -/
  | list {listed : List Rule} (hl : ∀ x, content? x listed = h.holds x) :
      Handles h .load (.ok (.rules listed)) h
  /-- A new rule has the text that was submitted, and an identifier of its own. -/
  | create {text : String} (x : RuleId) (enabled : Bool) (hx : x ∉ h.used) :
      Handles h (.create text) (.ok (.rule ⟨x, text, enabled⟩)) (h.enter x ⟨text, enabled⟩)
  | delete {x : RuleId} : Handles h (.delete x) (.ok .done) (h.put x none)
  /-- The status is flipped, and the new one is the answer. -/
  | toggle {x : RuleId} {v : Content} (hv : h.holds x = some v) :
      Handles h (.toggle x) (.ok (.status !v.enabled))
        (h.put x (some { v with enabled := !v.enabled }))
  /-- The text is stored as it was submitted. -/
  | update {x : RuleId} {text : String} {v : Content} (hv : h.holds x = some v) :
      Handles h (.update x text) (.ok .done) (h.put x (some { v with text }))
  | combine {xs : List RuleId} {tree : Json.Value} :
      Handles h (.combine xs) (.ok (.value tree)) h

variable {h h' : Holdings} {r : Request} {reply : Reply} {x y : RuleId} {v? : Option Content}

theorem put_holds : (h.put y v?).holds x = if y = x then v? else h.holds x := by
  by_cases hx : y = x
  · rw [if_pos hx, ← hx]
    exact Function.update_self _ _ _
  · rw [if_neg hx]
    exact Function.update_of_ne (Ne.symm hx) _ _

theorem eq_or_of_put_holds (hx : (h.put y v?).holds x ≠ none) :
    y = x ∧ v? ≠ none ∨ h.holds x ≠ none := by
  rw [put_holds] at hx
  by_cases hxy : y = x
  · rw [if_pos hxy] at hx
    exact Or.inl ⟨hxy, hx⟩
  · rw [if_neg hxy] at hx
    exact Or.inr hx

theorem Handles.used_subset (hh : h.Handles r reply h') : h.used ⊆ h'.used := by
  cases hh with
  | create x enabled hx => exact Set.subset_insert _ _
  | _ => exact subset_rfl

/-- **Handling a request is confirming it**: a request that is not refused changes what
the service holds by what the reply confirms. -/
theorem Handles.confirms (hh : h.Handles r reply h') :
    (h' = h ∧ ∃ lapse, reply.bind r.confirm = .error lapse) ∨
      ∃ c, reply.bind r.confirm = .ok c ∧ ∀ x, h'.holds x = c.revise x (h.holds x) := by
  cases hh with
  | @refuse _ lapse => exact Or.inl ⟨rfl, lapse, rfl⟩
  | @list listed hl => exact Or.inr ⟨.loaded listed, rfl, fun x => (hl x).symm⟩
  | @create text y enabled hy =>
    exact Or.inr ⟨.created ⟨y, text, enabled⟩, rfl, fun x => put_holds⟩
  | @delete y => exact Or.inr ⟨.deleted y, rfl, fun x => put_holds⟩
  | @toggle y v hv =>
    refine Or.inr ⟨.toggled y !v.enabled, rfl, fun x => ?_⟩
    rw [put_holds, Confirmed.revise]
    by_cases hx : y = x
    · rw [if_pos hx, if_pos hx, ← hx, hv]
      rfl
    · rw [if_neg hx, if_neg hx]
  | @update y text v hv =>
    refine Or.inr ⟨.updated y text, rfl, fun x => ?_⟩
    rw [put_holds, Confirmed.revise]
    by_cases hx : y = x
    · rw [if_pos hx, if_pos hx, ← hx, hv]
      rfl
    · rw [if_neg hx, if_neg hx]
  | @combine xs tree => exact Or.inr ⟨.combined xs.length tree, rfl, fun x => rfl⟩

/-- **What a reply names** is what the request is about, or a rule that is new to the
service, or a rule that the service holds. -/
theorem Handles.names (hh : h.Handles r reply h') {c : Confirmed}
    (hc : reply.bind r.confirm = .ok c) (hx : x ∈ c.names) :
    r.target? = some x ∨ (x ∉ h.used ∧ x ∈ h'.used ∧ ∃ text, r = .create text) ∨
      (h.holds x ≠ none ∧ r = .load) := by
  cases hh with
  | refuse => cases hc
  | @list listed hl =>
    obtain rfl : Confirmed.loaded listed = c := Except.ok.inj hc
    refine Or.inr (Or.inr ⟨?_, rfl⟩)
    rw [← hl x]
    exact fun hn => content?_eq_none_iff.mp hn hx
  | @create text y enabled hy =>
    obtain rfl : Confirmed.created ⟨y, text, enabled⟩ = c := Except.ok.inj hc
    obtain rfl : x = y := List.mem_singleton.mp hx
    exact Or.inr (Or.inl ⟨hy, Set.mem_insert _ _, text, rfl⟩)
  | @delete y =>
    obtain rfl : Confirmed.deleted y = c := Except.ok.inj hc
    exact Or.inl (congrArg some (List.mem_singleton.mp hx).symm)
  | @toggle y v hv =>
    obtain rfl : Confirmed.toggled y (!v.enabled) = c := Except.ok.inj hc
    exact Or.inl (congrArg some (List.mem_singleton.mp hx).symm)
  | @update y text v hv =>
    obtain rfl : Confirmed.updated y text = c := Except.ok.inj hc
    exact Or.inl (congrArg some (List.mem_singleton.mp hx).symm)
  | @combine xs tree =>
    obtain rfl : Confirmed.combined xs.length tree = c := Except.ok.inj hc
    cases hx

/-- The identifier of a rule that was created was never in use. -/
theorem Handles.created_new (hh : h.Handles r reply h') {q : Rule}
    (hc : reply.bind r.confirm = .ok (.created q)) : q.id ∉ h.used := by
  cases hh with
  | create y enabled hx =>
    cases hc
    exact hx
  | _ => cases hc

/-- What the service holds, it holds under an identifier that is in use. -/
theorem Handles.holds_used (hh : h.Handles r reply h') (hu : ∀ x, h.holds x ≠ none → x ∈ h.used)
    (hx : h'.holds x ≠ none) : x ∈ h'.used := by
  cases hh with
  | @create text y enabled hy =>
    rcases eq_or_of_put_holds hx with ⟨rfl, -⟩ | hx
    · exact Set.mem_insert _ _
    · exact Set.mem_insert_of_mem _ (hu x hx)
  | delete =>
    rcases eq_or_of_put_holds hx with ⟨-, hn⟩ | hx
    · exact absurd rfl hn
    · exact hu x hx
  | toggle hv =>
    rcases eq_or_of_put_holds hx with ⟨rfl, -⟩ | hx
    · exact hu _ (by rw [hv]; exact Option.some_ne_none _)
    · exact hu x hx
  | update hv =>
    rcases eq_or_of_put_holds hx with ⟨rfl, -⟩ | hx
    · exact hu _ (by rw [hv]; exact Option.some_ne_none _)
    · exact hu x hx
  | refuse => exact hu x hx
  | list hl => exact hu x hx
  | combine => exact hu x hx

end Holdings

/-! ### Calls in flight -/

/-- A call in flight, with the reply once the service has given it. -/
structure Pending where
  request : Request
  reply? : Option Reply

/-- What the service has done for a call, if it has handled it and not refused. -/
def Pending.confirmed? (c : Pending) : Option Confirmed :=
  c.reply?.bind fun reply => (reply.bind c.request.confirm).toOption

/-- A store, its calls in flight and the service. -/
structure Exchange where
  store : Store
  calls : List Pending
  service : Holdings

namespace Exchange

/-- The store and the operations that wait, without the service. -/
def desk (x : Exchange) : Desk := ⟨x.store, x.calls.map (·.request)⟩

/-- What the service has done that the store has not heard of yet. -/
def unheard (x : Exchange) : List Confirmed := x.calls.filterMap Pending.confirmed?

/-- **The local collection is the service's**, read as a map from identifiers to
contents. -/
def Agrees (x : Exchange) : Prop := ∀ i, content? i x.store.rules = x.service.holds i

/-- **What can happen next.** -/
inductive Step (x : Exchange) : Exchange → Prop
  /-- An operation is refused before any call is made. -/
  | refuse {r : Request} {failure : Failure} (hs : (x.store.start r).result = .error failure) :
      Step x { x with store := (x.store.start r).store }
  /-- An operation makes its call. A load does so when nothing is in flight, and nothing
  else does so while a load is. -/
  | send {r : Request} {call : Call} (hs : (x.store.start r).result = .ok call)
      (hload : r = .load → x.calls = []) (hno : ∀ c ∈ x.calls, c.request ≠ .load) :
      Step x { x with store := (x.store.start r).store, calls := x.calls ++ [⟨r, none⟩] }
  /-- The service handles a request. -/
  | serve (before after : List Pending) {r : Request} {reply : Reply} {service : Holdings}
      (hc : x.calls = before ++ ⟨r, none⟩ :: after) (hs : x.service.Handles r reply service) :
      Step x { x with calls := before ++ ⟨r, some reply⟩ :: after, service }
  /-- The reply that the service has given is delivered. -/
  | deliver (before after : List Pending) {r : Request} {reply : Reply}
      (hc : x.calls = before ++ ⟨r, some reply⟩ :: after) :
      Step x { x with store := (x.store.finish r reply).store, calls := before ++ after }

/-- **A run**: any number of steps. -/
abbrev Run : Exchange → Exchange → Prop := Relation.ReflTransGen Step

/-- Where a run may begin: a guarded store with nothing in flight, whose collection is
the service's. -/
structure Begins (x : Exchange) : Prop where
  guard : x.store.guard? = some .empty
  idle : x.calls = []
  agrees : x.Agrees
  used : ∀ i, x.service.holds i ≠ none → i ∈ x.service.used

/-- A guarded store with nothing in flight, and a service that holds the same rules and
has never used another identifier. -/
def synced (rules : List Rule) : Exchange :=
  ⟨⟨rules, rules, 0, some .empty⟩, [], ⟨fun i => content? i rules, {i | i ∈ ids rules}⟩⟩

/-- A run may begin with any collection. -/
theorem begins_synced (rules : List Rule) : (synced rules).Begins where
  guard := rfl
  idle := rfl
  agrees := fun _ => rfl
  used := fun _ hi => by
    by_contra hn
    exact hi (content?_eq_none_iff.mpr hn)

end Exchange

end Rulebook
