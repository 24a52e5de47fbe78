import Rulebook.Proofs.Store.Frame

/-!
# One operation after another

When each operation is carried out to its end before the next one begins, and the service
keeps its rules in a list (`Rulebook.Roster`), the collection of a store is that list at
every moment, in the same order: it grows at the end where the list grows, and a rule that
changes keeps its place on both sides (`Rulebook.Store.mirrors_performAll`).

The list is kept by other means than the collection. A new rule goes behind the others and
nobody asks whether it was there, since it was not; a change is made to every rule that
has the identifier, since there is but one (`Rulebook.Rule.amend_eq_map`). The two agree
because no identifier stands twice in a roster, which is part of what a roster is. That
any call may fail needs no care of its own: a call that fails leaves both sides alone.
-/

namespace Rulebook

open Rule

/-! ### The list that the service keeps -/

/-- A list of rules in which no identifier stands twice. -/
structure Roster where
  rules : List Rule
  nodup : (ids rules).Nodup

namespace Roster

/-- The roster with a new rule behind the others. -/
def add (l : Roster) (r : Rule) (hr : r.id ∉ ids l.rules) : Roster where
  rules := l.rules ++ [r]
  nodup := by
    rw [ids_append, ids_cons, ids_nil]
    exact (List.nodup_cons.mpr ⟨hr, l.nodup⟩ : (r.id :: ids l.rules).Nodup).perm
      (List.perm_append_singleton _ _).symm

/-- The roster without a rule. -/
def remove (l : Roster) (x : RuleId) : Roster where
  rules := l.rules.filter (·.id != x)
  nodup := by
    rw [ids_filter_ne]
    exact l.nodup.filter _

/-- The rules with one of them changed; the change keeps the identifier. -/
def change (l : Roster) (x : RuleId) (f : Rule → Rule) (hf : ∀ q, (f q).id = q.id) : Roster where
  rules := l.rules.map fun q => if q.id = x then f q else q
  nodup := by
    have hids : ids (l.rules.map fun q => if q.id = x then f q else q) = ids l.rules := by
      rw [← amend_eq_map l.nodup, ids_amend fun q hq => (hf q).trans hq]
    rw [hids]
    exact l.nodup

/-- **How the service handles a call**: the reply it gives and the roster it has
afterwards. -/
inductive Handles (l : Roster) : Call → Reply → Roster → Prop
  /-- Any call may fail, and then has no effect. -/
  | refuse {call : Call} {lapse : CallFailure} : Handles l call (.error lapse) l
  | list : Handles l .listRules (.ok (.rules l.rules)) l
  /-- A new rule has an identifier that is not in use. -/
  | create {text : String} (r : Rule) (hr : r.id ∉ ids l.rules) :
      Handles l (.createRule text) (.ok (.rule r)) (l.add r hr)
  | delete {x : RuleId} (hx : x ∈ ids l.rules) :
      Handles l (.deleteRule x) (.ok .done) (l.remove x)
  /-- The status is flipped, and the new one is the answer. -/
  | toggle {r : Rule} (hr : r ∈ l.rules) :
      Handles l (.toggleStatus r.id) (.ok (.status !r.enabled))
        (l.change r.id (fun q => { q with enabled := !q.enabled }) fun _ => rfl)
  /-- The text is stored as it was submitted. -/
  | update {x : RuleId} {text : String} (hx : x ∈ ids l.rules) :
      Handles l (.updateRule x text) (.ok .done) (l.change x ({ · with text }) fun _ => rfl)
  | evaluate {e : Evaluation} {outcome : Outcome} (he : e.rule ∈ ids l.rules) :
      Handles l (.evaluateRule e) (.ok (.outcome outcome)) l
  | combine {xs : List RuleId} {tree : Json.Value} (hxs : ∀ x ∈ xs, x ∈ ids l.rules) :
      Handles l (.combineRules xs) (.ok (.value tree)) l

/-- **What the caller of an operation is told agrees** with the answer that the service
gave and with the roster that it has afterwards. -/
inductive Tells (l : Roster) : Request → Answer → Result → Prop
  | count : Tells l .load (.rules l.rules) (.count l.rules.length)
  | created {text : String} {r : Rule} (hr : l.rules.getLast? = some r) :
      Tells l (.create text) (.rule r) (.rule r)
  | deleted {x : RuleId} (hx : x ∉ ids l.rules) : Tells l (.delete x) .done .done
  | status {r : Rule} (hr : r ∈ l.rules) :
      Tells l (.toggle r.id) (.status r.enabled) (.status r.enabled)
  | updated {r : Rule} (hr : r ∈ l.rules) : Tells l (.update r.id r.text) .done .done
  | combined {xs : List RuleId} {tree : Json.Value} :
      Tells l (.combine xs) (.value tree) (.value tree)

variable {l l' : Roster} {r : Request} {reply : Reply} {q q' : Rule} {x : RuleId}

/-- A roster has one rule under an identifier. -/
theorem eq_of_id_eq (hq : q ∈ l.rules) (hq' : q' ∈ l.rules) (h : q.id = q'.id) : q = q' :=
  List.inj_on_of_nodup_map l.nodup hq hq' h

theorem mem_change {f : Rule → Rule} {hf : ∀ q, (f q).id = q.id} (hq : q ∈ l.rules) :
    f q ∈ (l.change q.id f hf).rules :=
  List.mem_map.mpr ⟨q, hq, if_pos rfl⟩

theorem not_mem_remove : x ∉ ids (l.remove x).rules := by
  rw [remove, ids_filter_ne, List.mem_filter, bne_iff_ne]
  exact fun h => h.2 rfl

/-- **Handling a call is confirming it**: a call that does not fail changes the roster by
what its answer confirms, and the answer tells the truth. -/
theorem Handles.settles (hh : l.Handles r.call reply l') :
    (l' = l ∧ ∃ lapse, reply = .error lapse) ∨
      ∃ answer c, reply = .ok answer ∧ r.confirm answer = .ok c ∧
        l'.rules = c.settle l.rules ∧ l'.Tells r answer c.result := by
  cases reply with
  | error lapse =>
    refine Or.inl ⟨?_, lapse, rfl⟩
    -- which call it is does not matter here
    generalize r.call = call at hh
    cases hh
    rfl
  | ok answer =>
    refine Or.inr ⟨answer, ?_⟩
    cases r with
    | load =>
      cases hh
      have hl : firsts l.rules = l.rules := firsts_of_nodup l.nodup
      refine ⟨.loaded l.rules, rfl, rfl, hl.symm, ?_⟩
      rw [Confirmed.result, hl]
      exact .count
    | create text =>
      cases hh with
      | create q hq =>
        refine ⟨.created q, rfl, rfl, (Confirmed.settle_created_of_not_mem hq).symm, ?_⟩
        exact .created List.getLast?_concat
    | delete x =>
      cases hh
      exact ⟨.deleted x, rfl, rfl, Confirmed.settle_deleted.symm, .deleted not_mem_remove⟩
    | toggle x =>
      cases hh with
      | @toggle q hq =>
        refine ⟨.toggled q.id !q.enabled, rfl, rfl, ?_, ?_⟩
        · rw [Confirmed.settle_toggled, amend_eq_map l.nodup]
          refine List.map_congr_left fun q' hq' => ?_
          -- the one rule with the identifier is the one that the answer is about, so to flip
          -- its status and to set it to what was answered is the same
          by_cases h : q'.id = q.id
          · rw [if_pos h, if_pos h, eq_of_id_eq hq' hq h]
          · rw [if_neg h, if_neg h]
        · exact .status (mem_change hq)
    | update x text =>
      cases hh with
      | update hx =>
        refine ⟨.updated x text, rfl, rfl, ?_, ?_⟩
        · rw [Confirmed.settle_updated, amend_eq_map l.nodup]
          rfl
        · obtain ⟨q, hq, rfl⟩ := List.mem_map.mp hx
          exact .updated (mem_change hq)
    | combine xs =>
      cases hh with
      | @combine _ tree hxs => exact ⟨.combined xs.length tree, rfl, rfl, rfl, .combined⟩

end Roster

/-! ### A store beside it -/

variable {σ : Type} {svc : Service σ} {held : σ → Roster} {s : Store} {r : Request} {w : σ}

/-- A service that keeps its rules in a roster, which can be read off its state. -/
structure Service.Keeps (svc : Service σ) (held : σ → Roster) : Prop where
  handles : ∀ call w, (held w).Handles call (svc.ask call w).1 (held (svc.ask call w).2)

namespace Store

/-- Carries out operations one after another; the store and the service after the last
one. -/
def performAll (svc : Service σ) (s : Store) (w : σ) : List Request → Store × σ
  | [] => (s, w)
  | r :: rs => (s.perform svc r w).1.store.performAll svc (s.perform svc r w).2 rs

/-- **One operation against a roster**: it is refused, and nothing happens on either side;
or the service fails, and again nothing happens; or the service answers, and then both
sides change by what is confirmed, and the caller is told what the service answered. -/
theorem perform_cases_of_keeps (hk : svc.Keeps held) (s : Store) (r : Request) (w : σ) :
    (∃ failure, Refusal failure ∧ (s.perform svc r w).1.store = s ∧
        (s.perform svc r w).1.result = .error failure ∧ (s.perform svc r w).2 = w) ∨
      (∃ lapse, (svc.ask r.call w).1 = .error lapse ∧ (s.perform svc r w).1.store = s ∧
        (s.perform svc r w).1.result = .error (.call lapse) ∧
        held (s.perform svc r w).2 = held w) ∨
      ∃ answer c, (svc.ask r.call w).1 = .ok answer ∧
        (s.perform svc r w).1.store = s.apply c ∧ (s.perform svc r w).1.result = .ok c ∧
        (held (s.perform svc r w).2).rules = c.settle (held w).rules ∧
        (held (s.perform svc r w).2).Tells r answer c.result := by
  have hsettles := (hk.handles r.call w).settles
  rcases perform_cases svc s r w with
    ⟨failure, href, hp⟩ | ⟨-, ⟨lapse, hreply, hp⟩ | ⟨c, hreply, hp⟩⟩
  · rw [hp]
    exact Or.inl ⟨failure, href, rfl, rfl, rfl⟩
  · rcases hsettles with ⟨hheld, lapse', hf⟩ | ⟨answer, c, ha, hc, -⟩
    · rw [hf] at hreply
      obtain rfl : lapse' = lapse := Except.error.inj hreply
      -- a service that fails does nothing, and neither does the store
      rw [hp]
      exact Or.inr (Or.inl ⟨lapse', hf, rfl, rfl, hheld⟩)
    · rw [ha] at hreply
      exact nomatch hc.symm.trans hreply
  · rcases hsettles with ⟨-, lapse, hf⟩ | ⟨answer, c', ha, hc, hheld, htells⟩
    · rw [hf] at hreply
      cases hreply
    · rw [ha] at hreply
      obtain rfl : c' = c := Except.ok.inj (hc.symm.trans hreply)
      rw [hp]
      exact Or.inr (Or.inr ⟨answer, c', ha, rfl, rfl, hheld, htells⟩)

/-- **Where the collection is the roster it is so after an operation**, whatever becomes of
it. -/
theorem mirrors_perform (hk : svc.Keeps held) (hs : s.rules = (held w).rules) :
    (s.perform svc r w).1.store.rules = (held (s.perform svc r w).2).rules := by
  rcases perform_cases_of_keeps hk s r w with
    ⟨failure, -, hstore, -, hw⟩ | ⟨lapse, -, hstore, -, hheld⟩ | ⟨answer, c, -, hstore, -, hheld, -⟩
  · rw [hstore, hw]
    exact hs
  · rw [hstore, hheld]
    exact hs
  · rw [hstore, hheld, apply_rules, hs]

/-- **An operation that succeeds tells what the service answered.** -/
theorem tells_perform (hk : svc.Keeps held) {c : Confirmed}
    (h : (s.perform svc r w).1.result = .ok c) :
    ∃ answer, (svc.ask r.call w).1 = .ok answer ∧
      (held (s.perform svc r w).2).Tells r answer c.result := by
  rcases perform_cases_of_keeps hk s r w with
    ⟨failure, -, -, hr, -⟩ | ⟨lapse, -, -, hr, -⟩ | ⟨answer, c', ha, -, hr, -, htells⟩
  · rw [hr] at h
    cases h
  · rw [hr] at h
    cases h
  · rw [hr] at h
    obtain rfl : c' = c := Except.ok.inj h
    exact ⟨answer, ha, htells⟩

/-- **An operation fails for a reason**: it was refused and the service was not asked, or
the service was asked and failed. -/
theorem refusal_or_lapse_of_perform (hk : svc.Keeps held) {failure : Failure}
    (h : (s.perform svc r w).1.result = .error failure) :
    (Refusal failure ∧ (s.perform svc r w).2 = w) ∨
      ∃ lapse, (svc.ask r.call w).1 = .error lapse ∧ failure = .call lapse := by
  rcases perform_cases_of_keeps hk s r w with
    ⟨failure', href, -, hr, hw⟩ | ⟨lapse, hf, -, hr, -⟩ | ⟨answer, c, -, -, hr, -⟩
  · rw [hr] at h
    exact Or.inl ⟨Except.error.inj h ▸ href, hw⟩
  · rw [hr] at h
    exact Or.inr ⟨lapse, hf, (Except.error.inj h).symm⟩
  · rw [hr] at h
    cases h

/-- **A run of operations mirrors the list of the service.** A store, guarded or not, whose
collection is the roster of the service, carries out any operations one after another,
and any of them may fail. Then

* the collection is again the roster, with its order;
* whatever operation comes next and succeeds, the caller is told what the service
  answered: how many rules it lists, the rule it has put at the end, the status that the
  rule has now;
* and if it fails, it was refused without a call or the service failed. -/
theorem mirrors_performAll (svc : Service σ) (held : σ → Roster) (hk : svc.Keeps held)
    (s : Store) (w : σ) (hs : s.rules = (held w).rules) (requests : List Request) :
    let (s', w') := s.performAll svc w requests
    s'.rules = (held w').rules ∧
    ∀ r,
      (∀ c, (s'.perform svc r w').1.result = .ok c →
        ∃ answer, (svc.ask r.call w').1 = .ok answer ∧
          (held (s'.perform svc r w').2).Tells r answer c.result) ∧
      ∀ failure, (s'.perform svc r w').1.result = .error failure →
        (Refusal failure ∧ (s'.perform svc r w').2 = w') ∨
          ∃ lapse, (svc.ask r.call w').1 = .error lapse ∧
            failure = .call lapse := by
  -- the hypothesis is about any store and service, so also about those after the first operation
  induction requests generalizing s w with
  | nil => exact ⟨hs, fun r => ⟨fun c => tells_perform hk, fun f => refusal_or_lapse_of_perform hk⟩⟩
  | cons r rs ih => exact ih _ _ (mirrors_perform hk hs)

end Store

/-! ### A service with a plan -/

/-- A roster together with a plan that says of each call to come whether it fails, and if
it does not, which identifier a new rule would get. -/
structure Host where
  roster : Roster
  plan : List (Option RuleId)

namespace Host

/-- The answer to a call and the roster after it, where `x` is the identifier for a new
rule. Nothing is done for a rule that is not there. -/
def serve (l : Roster) (x : RuleId) : Call → Option (Answer × Roster)
  | .listRules => some (.rules l.rules, l)
  | .createRule text =>
    if hx : x ∈ ids l.rules then none else some (.rule ⟨x, text, true⟩, l.add ⟨x, text, true⟩ hx)
  | .deleteRule y => if y ∈ ids l.rules then some (.done, l.remove y) else none
  | .toggleStatus y =>
    (find? y l.rules).map fun r =>
      (.status !r.enabled, l.change y (fun q => { q with enabled := !q.enabled }) fun _ => rfl)
  | .updateRule y text =>
    if y ∈ ids l.rules then some (.done, l.change y ({ · with text }) fun _ => rfl) else none
  | .evaluateRule e => if e.rule ∈ ids l.rules then some (.outcome ⟨true, []⟩, l) else none
  | .combineRules ys => if ∀ y ∈ ys, y ∈ ids l.rules then some (.value .null, l) else none

/-- Makes the next call as it is planned; once the plan is at its end every call fails. -/
def ask (call : Call) (w : Host) : Reply × Host :=
  match w.plan.head?.join.bind (serve w.roster · call) with
  | some (answer, l) => (.ok answer, ⟨l, w.plan.tail⟩)
  | none => (.error (call.failed (.transport "failed")), ⟨w.roster, w.plan.tail⟩)

/-- The service of a host. -/
def service : Service Host := ⟨ask⟩

theorem handles_of_serve {l l' : Roster} {x : RuleId} {call : Call} {answer : Answer}
    (h : serve l x call = some (answer, l')) : l.Handles call (.ok answer) l' := by
  cases call with
  | listRules =>
    cases h
    exact .list
  | createRule text =>
    rw [serve] at h
    split at h
    · cases h
    · cases h
      exact .create _ _
  | deleteRule y =>
    rw [serve] at h
    split at h
    · cases h
      exact .delete ‹_›
    · cases h
  | toggleStatus y =>
    obtain ⟨r, hr, he⟩ := Option.map_eq_some_iff.mp h
    obtain rfl : r.id = y := id_of_find? hr
    cases he
    exact .toggle (List.mem_of_find?_eq_some hr)
  | updateRule y text =>
    rw [serve] at h
    split at h
    · cases h
      exact .update ‹_›
    · cases h
  | evaluateRule e =>
    rw [serve] at h
    split at h
    · cases h
      exact .evaluate ‹_›
    · cases h
  | combineRules ys =>
    rw [serve] at h
    split at h
    · cases h
      exact .combine ‹_›
    · cases h

theorem keeps : service.Keeps roster where
  handles call w := by
    change w.roster.Handles call (ask call w).1 (ask call w).2.roster
    rw [ask]
    cases hs : w.plan.head?.join.bind (serve w.roster · call) with
    | none => exact .refuse
    | some p =>
      obtain ⟨x, -, hx⟩ := Option.bind_eq_some_iff.mp hs
      exact handles_of_serve hx

/-- A host with two rules that fails the third call. -/
def pair : Host where
  roster := ⟨[⟨⟨"a"⟩, "p", true⟩, ⟨⟨"b"⟩, "q", true⟩], by decide⟩
  plan := [some ⟨"c"⟩, some ⟨"d"⟩, none, some ⟨"d"⟩, some ⟨"d"⟩]

end Host

/-- Five operations of a guarded store: a rule is created, one changes its status, one is
asked for that is not there, an update fails, and another one succeeds on a rule that keeps
its place. Then a status is flipped. -/
theorem Store.mirrors_performAll_host :
    let s : Store := ⟨Host.pair.roster.rules, [], 0, some .empty⟩
    let (s', w') := s.performAll Host.service Host.pair
      [.create "r", .toggle ⟨"a"⟩, .delete ⟨"x"⟩, .update ⟨"b"⟩ "s", .update ⟨"b"⟩ "t"]
    Host.service.Keeps Host.roster ∧ s.rules = Host.pair.roster.rules ∧
      s'.rules = [⟨⟨"a"⟩, "p", false⟩, ⟨⟨"b"⟩, "t", true⟩, ⟨⟨"c"⟩, "r", true⟩] ∧
      s'.rules = w'.roster.rules ∧
      ∃ answer, (Host.service.ask (.toggleStatus ⟨"b"⟩) w').1 = .ok answer ∧
        (s'.perform Host.service (.toggle ⟨"b"⟩) w').2.roster.Tells (.toggle ⟨"b"⟩) answer
          (.status false) := by
  have hrun := mirrors_performAll Host.service Host.roster Host.keeps
    ⟨Host.pair.roster.rules, [], 0, some .empty⟩ Host.pair rfl
    [.create "r", .toggle ⟨"a"⟩, .delete ⟨"x"⟩, .update ⟨"b"⟩ "s", .update ⟨"b"⟩ "t"]
  exact ⟨Host.keeps, rfl, rfl, hrun.1, (hrun.2 (.toggle ⟨"b"⟩)).1 (.toggled ⟨"b"⟩ false) rfl⟩

end Rulebook
