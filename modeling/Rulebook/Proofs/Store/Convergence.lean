import Rulebook.Proofs.Store.Exchange

/-!
# A guarded store catches up with the service

While calls are in flight the local collection and the service's may differ: the
service has done things that the store has not heard of. The invariant
`Rulebook.Exchange.Coherent` says that this is *all* they differ by – what the service
holds is what the store has, after everything unheard of – and that no two calls in
flight have anything to do with the same rule. The second half is what the guard is
for. Without it two replies about one rule could be delivered in the other order than
that in which the service handled the requests; with it, confirmations that are
unheard of change places freely (`Rulebook.Confirmed.foldl_revise_comm`), and the
order of delivery does not matter.

A call has to do with its target, and with what its reply names once there is one
(`Rulebook.Pending.Concerns`): a new rule is not known to anybody before the service
has given it an identifier, and since that was never in use, it is apart from whatever
else is in flight.

Once nothing is in flight nothing is unheard of, and the two sides are the same
(`Rulebook.Exchange.agrees_of_idle`).
-/

namespace Rulebook

open Rule Confirmed

/-! ### Which rules a call has to do with -/

namespace Pending

/-- A call has to do with its target, and with the rules that its reply names. -/
def Concerns (c : Pending) (i : RuleId) : Prop :=
  c.request.target? = some i ∨ ∃ k, c.confirmed? = some k ∧ i ∈ k.names

/-- Two calls that have no rule in common, and neither of which is a load. -/
def Apart (c c' : Pending) : Prop :=
  c.request ≠ .load ∧ c'.request ≠ .load ∧ ∀ i, ¬(c.Concerns i ∧ c'.Concerns i)

variable {c c' : Pending} {k k' : Confirmed} {r : Request} {reply : Reply} {i : RuleId}

theorem Apart.symm (h : c.Apart c') : c'.Apart c :=
  ⟨h.2.1, h.1, fun i hi => h.2.2 i hi.symm⟩

/-- A call without a reply has confirmed nothing. -/
theorem confirmed?_of_unanswered : confirmed? ⟨r, none⟩ = none := rfl

theorem confirmed?_of_error {lapse : CallFailure} (h : reply.bind r.confirm = .error lapse) :
    confirmed? ⟨r, some reply⟩ = none := by
  rw [confirmed?, Option.bind_some, h]
  rfl

theorem confirmed?_of_ok (h : reply.bind r.confirm = .ok k) :
    confirmed? ⟨r, some reply⟩ = some k := by
  rw [confirmed?, Option.bind_some, h]
  rfl

theorem confirmed?_eq_some_iff :
    confirmed? ⟨r, some reply⟩ = some k ↔ reply.bind r.confirm = .ok k := by
  cases h : reply.bind r.confirm with
  | error lapse =>
    rw [confirmed?_of_error h]
    constructor
    · intro h'
      cases h'
    · intro h'
      cases h'
  | ok k' => rw [confirmed?_of_ok h, Option.some.injEq, Except.ok.injEq]

/-- Only a load is answered by a list. -/
theorem request_of_loaded {listed : List Rule} (h : c.confirmed? = some (.loaded listed)) :
    c.request = .load := by
  obtain ⟨r, reply?⟩ := c
  rcases reply? with _ | (lapse | answer)
  · cases h
  · cases h
  · have he : Heard.mk r answer = ⟨.load, .rules listed⟩ := Heard.eq_of_loaded h
    exact congrArg Heard.request he

/-- But for a list, what a reply names is the target of the call, or a new rule. -/
theorem target_or_created (h : c.confirmed? = some k) (hi : i ∈ k.names) :
    c.request = .load ∨ c.request.target? = some i ∨ ∃ q, k = .created q ∧ q.id = i := by
  obtain ⟨r, reply?⟩ := c
  rcases reply? with _ | (lapse | answer)
  · cases h
  · cases h
  · have hc : r.confirm answer = .ok k := confirmed?_eq_some_iff.mp h
    have hsome : ∀ {j : RuleId}, i ∈ [j] → some j = some i :=
      fun hj => congrArg some (List.mem_singleton.mp hj).symm
    cases r <;> cases answer <;> cases hc
    · -- a list
      exact Or.inl rfl
    · -- a new rule
      exact Or.inr (Or.inr ⟨_, rfl, (List.mem_singleton.mp hi).symm⟩)
    · exact Or.inr (Or.inl (hsome hi))
    · exact Or.inr (Or.inl (hsome hi))
    · exact Or.inr (Or.inl (hsome hi))
    · -- nothing is named
      cases hi

/-- **Calls that are apart have confirmed things that touch no rule in common.** -/
theorem Apart.not_touches (h : c.Apart c') (hk : c.confirmed? = some k)
    (hk' : c'.confirmed? = some k') : ¬(k.Touches i ∧ k'.Touches i) := by
  rintro ⟨ht, ht'⟩
  have hi : i ∈ k.names := by
    rcases mem_names_of_touches ht with hi | ⟨listed, rfl⟩
    · exact hi
    · exact absurd (request_of_loaded hk) h.1
  have hi' : i ∈ k'.names := by
    rcases mem_names_of_touches ht' with hi' | ⟨listed, rfl⟩
    · exact hi'
    · exact absurd (request_of_loaded hk') h.2.1
  exact h.2.2 i ⟨Or.inr ⟨k, hk, hi⟩, Or.inr ⟨k', hk', hi'⟩⟩

/-- The same with all that a list of calls has confirmed. -/
theorem not_touches_of_apart {calls : List Pending} (h : ∀ c' ∈ calls, c.Apart c')
    (hk : c.confirmed? = some k) :
    ∀ k' ∈ calls.filterMap confirmed?, ¬(k.Touches i ∧ k'.Touches i) := by
  intro k' hk'
  obtain ⟨c', hc', he⟩ := List.mem_filterMap.mp hk'
  exact (h c' hc').not_touches hk he

end Pending

/-! ### The invariant -/

namespace Exchange

/-- **What always holds of an exchange.** -/
structure Coherent (x : Exchange) : Prop where
  guarded : ∃ g, x.desk.Guarded g
  /-- No two calls in flight have to do with the same rule. -/
  apart : x.calls.Pairwise Pending.Apart
  /-- Every identifier that a call has to do with is in use. -/
  known : ∀ c ∈ x.calls, ∀ i, c.Concerns i → i ∈ x.service.used
  /-- A rule is not in the collection before it is known to have been created. -/
  fresh : ∀ c ∈ x.calls, ∀ q, c.confirmed? = some (.created q) → q.id ∉ ids x.store.rules
  /-- Every identifier in the collection is in use. -/
  listed : ∀ i ∈ ids x.store.rules, i ∈ x.service.used
  /-- Every identifier that the service holds something for is in use. -/
  held : ∀ i, x.service.holds i ≠ none → i ∈ x.service.used
  /-- The service holds what the store has, after everything it has not heard of. -/
  unheard : ∀ i, x.service.holds i = x.unheard.foldl (revise i) (content? i x.store.rules)

variable {x y : Exchange} {r : Request}

/-- The calls other than one are apart from it and from each other. -/
theorem Coherent.apart_split (h : x.Coherent) {before after : List Pending} {c : Pending}
    (hc : x.calls = before ++ c :: after) :
    (∀ c' ∈ before ++ after, c.Apart c') ∧ (before ++ after).Pairwise Pending.Apart := by
  have ha := h.apart
  rw [hc] at ha
  exact List.pairwise_cons.mp ((List.pairwise_middle Pending.Apart.symm).mp ha)

theorem mem_calls_of_mem {calls before after : List Pending} {c c' : Pending}
    (hc : calls = before ++ c :: after) (h : c' ∈ before ++ after) : c' ∈ calls := by
  rw [hc]
  rcases List.mem_append.mp h with h | h
  · exact List.mem_append_left _ h
  · exact List.mem_append_right _ (List.mem_cons_of_mem c h)

/-- **A run begins coherent.** -/
theorem Begins.coherent (h : x.Begins) : x.Coherent where
  guarded := by
    refine ⟨.empty, h.guard, ?_, ?_⟩
    · rw [desk, h.idle]
      rfl
    · rw [desk, h.idle]
      exact List.nodup_nil
  apart := by rw [h.idle]; exact List.Pairwise.nil
  known := by rw [h.idle]; intro c hc; cases hc
  fresh := by rw [h.idle]; intro c hc; cases hc
  listed := fun i hi => h.used i (by
    rw [← h.agrees i]
    exact fun hn => content?_eq_none_iff.mp hn hi)
  held := h.used
  unheard := fun i => by
    rw [Exchange.unheard, h.idle]
    exact (h.agrees i).symm

/-- A rule that an operation is started on is in the collection. -/
theorem mem_ids_of_check {s : Store} {i : RuleId} (hc : s.check r = .ok ())
    (ht : r.target? = some i) : i ∈ ids s.rules := by
  have hrequire : ∀ {j}, s.require j = .ok () → j ∈ ids s.rules := fun hj =>
    listed_iff.mp (Store.require_eq_ok_iff.mp hj)
  cases r with
  | delete j => obtain rfl := Option.some.inj ht; exact hrequire hc
  | toggle j => obtain rfl := Option.some.inj ht; exact hrequire hc
  | update j text =>
    obtain rfl := Option.some.inj ht
    rw [Store.check] at hc
    cases htext : checkRuleText text with
    | error failure => rw [htext] at hc; cases hc
    | ok u => rw [htext] at hc; exact hrequire hc
  | _ => cases ht

/-! ### One step -/

/-- **Sending.** What the new call is about is in the collection, so it is no rule that
is just being created; and no other call in flight is about it, or the guard would have
refused. -/
theorem Coherent.send (h : x.Coherent) {s : Store} (hc : x.store.check r = .ok ())
    (he : x.store.enrol r = .ok s) (hload : r = .load → x.calls = [])
    (hno : ∀ c ∈ x.calls, c.request ≠ .load) :
    Coherent { x with store := s, calls := x.calls ++ [⟨r, none⟩] } := by
  have hrules : s.rules = x.store.rules := Store.rules_of_enrol he
  have htarget : ∀ {i}, Pending.Concerns ⟨r, none⟩ i → r.target? = some i := by
    rintro i (ht | ⟨k, hk, -⟩)
    · exact ht
    · cases hk
  obtain ⟨g, hg⟩ := h.guarded
  obtain ⟨g', hg'⟩ := hg.enrol he
  refine ⟨⟨g', ?_⟩, ?_, ?_, ?_, ?_, h.held, ?_⟩
  · -- the registry
    rw [desk, List.map_append]
    exact hg'
  · -- the new call is apart from the others
    refine List.pairwise_append.mpr ⟨h.apart, List.pairwise_singleton _ _, ?_⟩
    intro c hcm c' hc'
    obtain rfl := List.mem_singleton.mp hc'
    refine ⟨hno c hcm, fun hl => ?_, ?_⟩
    · rw [hload hl] at hcm
      cases hcm
    rintro i ⟨hci, hnew⟩
    have ht := htarget hnew
    have honly : c.request.target? ≠ some i := by
      intro hct
      have hn := hg'.nodup
      rw [List.filterMap_append, List.filterMap_cons_some ht] at hn
      refine (List.nodup_append.mp hn).2.2 i ?_ i List.mem_cons_self rfl
      exact List.mem_filterMap.mpr ⟨c.request, List.mem_map_of_mem hcm, hct⟩
    rcases hci with hct | ⟨k, hk, hik⟩
    · exact honly hct
    · rcases Pending.target_or_created hk hik with hl | hct | ⟨q, rfl, rfl⟩
      · exact hno c hcm hl
      · exact honly hct
      · exact h.fresh c hcm q hk (mem_ids_of_check hc ht)
  · -- it has to do with a known rule only
    intro c hcm i hi
    rcases List.mem_append.mp hcm with hcm | hcm
    · exact h.known c hcm i hi
    · obtain rfl := List.mem_singleton.mp hcm
      exact h.listed i (mem_ids_of_check hc (htarget hi))
  · -- it has created nothing yet
    intro c hcm q hq
    rw [hrules]
    rcases List.mem_append.mp hcm with hcm | hcm
    · exact h.fresh c hcm q hq
    · obtain rfl := List.mem_singleton.mp hcm
      cases hq
  · rw [hrules]
    exact h.listed
  · -- and the service has done nothing for it
    intro i
    rw [hrules, Exchange.unheard, List.filterMap_append,
      List.filterMap_cons_none Pending.confirmed?_of_unanswered, List.filterMap_nil,
      List.append_nil]
    exact h.unheard i

/-- A call that is answered now has to do with its target, or with a rule that is new to
the service, so it is still apart from the others. -/
theorem Coherent.apart_served (h : x.Coherent) {before after : List Pending} {reply : Reply}
    {service : Holdings} (hc : x.calls = before ++ ⟨r, none⟩ :: after)
    (hs : x.service.Handles r reply service) :
    ∀ c' ∈ before ++ after, Pending.Apart ⟨r, some reply⟩ c' := by
  intro c' hc'
  have hold : Pending.Apart ⟨r, none⟩ c' := (h.apart_split hc).1 c' hc'
  refine ⟨hold.1, hold.2.1, ?_⟩
  rintro i ⟨ht | ⟨k, hk, hi⟩, hci⟩
  · exact hold.2.2 i ⟨Or.inl ht, hci⟩
  · rcases hs.names (Pending.confirmed?_eq_some_iff.mp hk) hi with ht | ⟨hu, -, -⟩ | ⟨-, hl⟩
    · exact hold.2.2 i ⟨Or.inl ht, hci⟩
    · exact hu (h.known c' (mem_calls_of_mem hc hc') i hci)
    · exact hold.1 hl

/-- And whatever it has to do with is in use. -/
theorem Coherent.known_served (h : x.Coherent) {before after : List Pending} {reply : Reply}
    {service : Holdings} (hc : x.calls = before ++ ⟨r, none⟩ :: after)
    (hs : x.service.Handles r reply service) {i : RuleId}
    (hi : Pending.Concerns ⟨r, some reply⟩ i) : i ∈ service.used := by
  have htarget : r.target? = some i → i ∈ service.used := by
    intro ht
    refine hs.used_subset (h.known ⟨r, none⟩ ?_ i (Or.inl ht))
    rw [hc]
    exact List.mem_append_right _ List.mem_cons_self
  rcases hi with ht | ⟨k, hk, hi⟩
  · exact htarget ht
  · rcases hs.names (Pending.confirmed?_eq_some_iff.mp hk) hi with ht | ⟨-, hu, -⟩ | ⟨hh, -⟩
    · exact htarget ht
    · exact hu
    · exact hs.used_subset (h.held i hh)

/-- **Serving.** What the service does for a call touches nothing that it has done for
another one, so it may as well have been done last. -/
theorem Coherent.serve (h : x.Coherent) {before after : List Pending} {reply : Reply}
    {service : Holdings} (hc : x.calls = before ++ ⟨r, none⟩ :: after)
    (hs : x.service.Handles r reply service) :
    Coherent { x with calls := before ++ ⟨r, some reply⟩ :: after, service } := by
  have hapart := h.apart_served hc hs
  refine ⟨?_, ?_, ?_, ?_, fun i hi => hs.used_subset (h.listed i hi),
    fun i hi => hs.holds_used h.held hi, ?_⟩
  · -- the registry does not see the reply
    obtain ⟨g, hg⟩ := h.guarded
    refine ⟨g, ?_⟩
    rw [desk, List.map_append, List.map_cons]
    rw [desk, hc, List.map_append, List.map_cons] at hg
    exact hg
  · exact (List.pairwise_middle Pending.Apart.symm).mpr
      (List.pairwise_cons.mpr ⟨hapart, (h.apart_split hc).2⟩)
  · -- what the calls have to do with is in use
    intro c' hc' i hci
    rcases List.mem_cons.mp (List.perm_middle.mem_iff.mp hc') with rfl | hc'
    · exact h.known_served hc hs hci
    · exact hs.used_subset (h.known c' (mem_calls_of_mem hc hc') i hci)
  · -- a rule that is created now was never in use, and so is not in the collection
    intro c' hc' q hq
    rcases List.mem_cons.mp (List.perm_middle.mem_iff.mp hc') with rfl | hc'
    · exact fun hmem => hs.created_new (Pending.confirmed?_eq_some_iff.mp hq) (h.listed _ hmem)
    · exact h.fresh c' (mem_calls_of_mem hc hc') q hq
  · -- what is unheard of is one thing more, and that thing changes places with the others
    intro i
    have hi := h.unheard i
    rw [Exchange.unheard, hc, List.filterMap_append,
      List.filterMap_cons_none Pending.confirmed?_of_unanswered, List.foldl_append] at hi
    rw [Exchange.unheard, List.filterMap_append]
    rcases hs.confirms with ⟨rfl, lapse, hf⟩ | ⟨k, hk, hrev⟩
    · rw [List.filterMap_cons_none (Pending.confirmed?_of_error hf), List.foldl_append]
      exact hi
    · have hk' := Pending.confirmed?_of_ok hk
      rw [List.filterMap_cons_some hk', List.foldl_append, List.foldl_cons,
        foldl_revise_comm (Pending.not_touches_of_apart
          (fun c' hc' => hapart c' (List.mem_append_right _ hc')) hk'), ← hi]
      exact hrev i

/-- **Delivering.** What the store hears of is one of the things it had not heard of, and
that may as well have been done first. -/
theorem Coherent.deliver (h : x.Coherent) {before after : List Pending} {reply : Reply}
    (hc : x.calls = before ++ ⟨r, some reply⟩ :: after) :
    Coherent { x with store := (x.store.finish r reply).store, calls := before ++ after } := by
  obtain ⟨hapart, hrest⟩ := h.apart_split hc
  have hmem : ∀ {c'}, c' ∈ before ++ after → c' ∈ x.calls := mem_calls_of_mem hc
  have hself : (⟨r, some reply⟩ : Pending) ∈ x.calls := by
    rw [hc]
    exact List.mem_append_right _ List.mem_cons_self
  have hguarded : ∃ g, Desk.Guarded
      (desk { x with store := (x.store.finish r reply).store, calls := before ++ after }) g := by
    obtain ⟨g, hg⟩ := h.guarded
    have hw : x.desk.waiting = before.map (·.request) ++ r :: after.map (·.request) := by
      rw [desk, hc, List.map_append, List.map_cons]
    rw [desk, List.map_append]
    exact hg.finish hw reply
  have hunheard := h.unheard
  simp only [Exchange.unheard, hc, List.filterMap_append] at hunheard
  cases hr : reply.bind r.confirm with
  | error lapse =>
    -- nothing is heard of, and the collection stays
    rw [Store.finish_of_error hr] at hguarded ⊢
    refine ⟨hguarded, hrest, fun c' hc' => h.known c' (hmem hc'), ?_, ?_, h.held, ?_⟩
    · rw [Store.abandon_rules]
      exact fun c' hc' => h.fresh c' (hmem hc')
    · rw [Store.abandon_rules]
      exact h.listed
    · intro i
      have hi := hunheard i
      rw [List.filterMap_cons_none (Pending.confirmed?_of_error hr)] at hi
      rw [Store.abandon_rules, Exchange.unheard, List.filterMap_append]
      exact hi
  | ok k =>
    have hk := Pending.confirmed?_of_ok hr
    have hrules : ((x.store.abandon r).apply k).rules = k.settle x.store.rules := by
      rw [Store.apply_rules, Store.abandon_rules]
    rw [Store.finish_of_ok hr] at hguarded ⊢
    refine ⟨hguarded, hrest, fun c' hc' => h.known c' (hmem hc'), ?_, ?_, h.held, ?_⟩
    · -- a rule that is being created is none of those that the reply names
      intro c' hc' q hq
      rw [hrules]
      intro hq'
      rcases mem_or_mem_names_of_mem_settle hq' with hin | hnames
      · exact h.fresh c' (hmem hc') q hq hin
      · exact (hapart c' hc').2.2 q.id
          ⟨Or.inr ⟨k, hk, hnames⟩, Or.inr ⟨_, hq, List.mem_singleton_self _⟩⟩
    · -- what the reply names is in use
      intro i hi
      rw [hrules] at hi
      rcases mem_or_mem_names_of_mem_settle hi with hin | hnames
      · exact h.listed i hin
      · exact h.known _ hself i (Or.inr ⟨k, hk, hnames⟩)
    · -- what is heard of now is one of the things that were unheard of
      intro i
      have hi := hunheard i
      rw [List.filterMap_cons_some hk, List.foldl_append, List.foldl_cons] at hi
      rw [hrules, Exchange.unheard, List.filterMap_append, List.foldl_append, content?_settle,
        foldl_revise_comm (Pending.not_touches_of_apart
          (fun c' hc' => hapart c' (List.mem_append_left _ hc')) hk)]
      exact hi

/-- **Every step preserves the invariant.** -/
theorem Coherent.step (h : x.Coherent) (hs : x.Step y) : y.Coherent := by
  cases hs with
  | @refuse r failure hs =>
    rcases x.store.start_cases r with ⟨failure', he⟩ | ⟨s, hc, he, hst⟩
    · rw [he]
      exact h
    · rw [hst] at hs
      cases hs
  | @send r call hs hload hno =>
    rcases x.store.start_cases r with ⟨failure', he⟩ | ⟨s, hc, he, hst⟩
    · rw [he] at hs
      cases hs
    · rw [hst]
      exact h.send hc he hload hno
  | serve before after hc hs => exact h.serve hc hs
  | deliver before after hc => exact h.deliver hc

theorem Coherent.run (h : x.Coherent) (hr : x.Run y) : y.Coherent := by
  induction hr with
  | refl => exact h
  | tail _ hs ih => exact ih.step hs

/-- **A guarded store catches up.** However the operations of a guarded store overlap, in
whatever order the service handles the requests and in whatever order its replies are
delivered: whenever nothing is in flight, the local collection is the service's. -/
theorem agrees_of_idle (hx : x.Begins) (hr : x.Run y) (hy : y.calls = []) : y.Agrees := by
  intro i
  have hi := (hx.coherent.run hr).unheard i
  rw [Exchange.unheard, hy] at hi
  exact hi.symm

/-- Three operations of a guarded store at once, and a fourth one that is refused: the
requests are handled in another order than they were made, and the replies delivered in
yet another. -/
theorem agrees_of_idle_overlapping :
    ∃ y, (synced [⟨⟨"a"⟩, "p", true⟩, ⟨⟨"b"⟩, "q", false⟩]).Begins ∧
      (synced [⟨⟨"a"⟩, "p", true⟩, ⟨⟨"b"⟩, "q", false⟩]).Run y ∧ y.calls = [] ∧
      y.store.rules = [⟨⟨"a"⟩, "p", false⟩, ⟨⟨"c"⟩, "r", true⟩] ∧ y.Agrees := by
  have hbegins := begins_synced [⟨⟨"a"⟩, "p", true⟩, ⟨⟨"b"⟩, "q", false⟩]
  have h1 := Relation.ReflTransGen.single (Step.send (r := .toggle ⟨"a"⟩)
    (x := synced [⟨⟨"a"⟩, "p", true⟩, ⟨⟨"b"⟩, "q", false⟩]) rfl nofun (by simp [synced]))
  have h2 := h1.tail (.send (r := .create "r") rfl nofun (by simp [synced]))
  have h3 := h2.tail (.refuse (r := .delete ⟨"a"⟩) rfl)
  have h4 := h3.tail (.send (r := .delete ⟨"b"⟩) rfl nofun (by simp [synced]))
  -- the service handles the second request, then the third, then the first
  have h5 := h4.tail (.serve [_] [_] rfl (.create ⟨"c"⟩ true (by simp [synced])))
  have h6 := h5.tail (.serve [_, _] [] rfl .delete)
  have h7 := h6.tail (.serve [] [_, _] rfl (.toggle (v := ⟨"p", true⟩) rfl))
  -- its replies are delivered from the last to the first
  have h8 := h7.tail (.deliver [_, _] [] rfl)
  have h9 := h8.tail (.deliver [_] [] rfl)
  have h10 := h9.tail (.deliver [] [] rfl)
  exact ⟨_, hbegins, h10, rfl, rfl, agrees_of_idle hbegins h10 rfl⟩

end Exchange

end Rulebook
