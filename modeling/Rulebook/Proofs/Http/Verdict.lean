import Rulebook.Proofs.Http.Carriage
import Rulebook.Proofs.Http.Shapes
import Rulebook.Proofs.Store.Frame
import Rulebook.Proofs.Text.Utf8
import Rulebook.Trial

/-!
# What a response says of a call

A call over HTTP ends in one of three ways (`Rulebook.Http.ask_cases`): there is no place for it,
and no request is made; a request is made and no response comes; or there is a response, and then it
alone decides (`Rulebook.Http.Classified`). The status comes first: if it is no success, the call
has failed, whatever the body says. If it is one, two of the calls have succeeded
(`Rulebook.Http.Bodiless`), and the others have if the value in the body fits them
(`Rulebook.Http.Fits`).

The distinction matters to whoever wants to make the call again. An answer that cannot be read has
the status of a success, and so it is never worth a second try, while an error of the service may
be; this is said by the status alone (`Rulebook.Fault.retryable_iff_of_status`), so nothing that
is in a body can make a difference to it. Without a response it is worth a second try exactly if the
fault says that something was sent. It says so of every request that was made, and not all of
these are sent: some are kept back by the client itself (`Rulebook.Http.unsent_retryable`). So it is
right about what was sent where the client takes the request, and only there.
-/

namespace Rulebook

/-! ### Faults -/

namespace Fault

variable {fault : Fault} {s : Nat}

/-- **A fault with a status** is worth another try by its status. -/
theorem retryable_iff_of_status (hsent : fault.sent = true) (h : fault.status = some s) :
    fault.retryable = true ↔ 500 ≤ s ∨ s = 408 ∨ s = 429 := by
  rw [retryable, hsent, h, Bool.true_and]
  simp [retryableStatus, or_assoc]

/-- **A fault without a status** is worth another try if it says that something was sent. -/
theorem retryable_of_status_eq_none (h : fault.status = none) : fault.retryable = fault.sent := by
  rw [retryable, h, Bool.and_true]

end Fault

/-- **What a failed call shows**: its operation, the status and the body of the response, and that
something was sent. -/
structure CallFailure.Shows (f : CallFailure) (operation : Operation) (status : Nat)
    (body : Option String) : Prop where
  operation : f.operation = operation
  status : f.fault.status = some status
  body : f.fault.body = body
  sent : f.fault.sent = true

namespace Http

variable {c : Call} {r : Response} {s : Nat} {b : String} {a : Answer} {base : Url}
  {request : Request} {fault : Fault} {f : CallFailure} {others : Decoders}

/-! ### The text of a response -/

/-- **A response carries a text**: it came in full, in UTF-8, and without a byte order mark. It is
in UTF-8 too if it does not say in which charset it is. -/
structure Response.Carries (r : Response) (b : String) : Prop where
  complete : r.complete = true
  charset : ∀ label, charsetLabel? r.contentType = some label →
    Charset.ofLabel? label = some .utf8
  body : r.body = Text.Utf8.encode b
  unmarked : b.toList.head? ≠ some '\uFEFF'

/-- **The bytes of a text are taken for nothing else**: two of the marks are no UTF-8, and the third
one is a character that the text does not start with. -/
theorem readText_encode {contentType : Option String}
    (hcharset : ∀ label, charsetLabel? contentType = some label →
      Charset.ofLabel? label = some .utf8)
    (hb : b.toList.head? ≠ some '\uFEFF') :
    readText others contentType (Text.Utf8.encode b) = b := by
  unfold readText
  split
  -- the mark of UTF-8 is a character, and it would be the first one
  · rename_i rest hbytes
    obtain ⟨d, width, hhead, hpiece⟩ := Text.Utf8.exists_head_of_encode hbytes
    have hmark : Text.Utf8.pieceAt 0xEF (0xBB :: 0xBF :: rest) = .scalar '\uFEFF' 3 :=
      Text.Utf8.pieceAt_three (by decide) (by decide) (by decide)
    rw [hmark] at hpiece
    obtain rfl := (Text.Utf8.Piece.scalar.inj hpiece).1
    exact absurd hhead hb
  -- no character starts with a byte of the other marks
  · rename_i rest hbytes
    obtain ⟨d, width, -, hpiece⟩ := Text.Utf8.exists_head_of_encode hbytes
    cases hpiece
  · rename_i rest hbytes
    obtain ⟨d, width, -, hpiece⟩ := Text.Utf8.exists_head_of_encode hbytes
    cases hpiece
  · split
    · rename_i label hlabel
      rw [readLabelled, hcharset label hlabel]
      exact Text.Utf8.decodeLossy_encode b
    · exact Text.Utf8.decodeLossy_encode b

theorem Response.Carries.text (h : r.Carries b) : r.text others = b := by
  rw [Response.text, h.body, readText_encode h.charset h.unmarked]

/-! ### Classification -/

/-- **What a status and a text make of a call.** -/
structure Classified (c : Call) (s : Nat) (b : String) (reply : Reply) : Prop where
  /-- Without a success the call has failed, whatever the text is. -/
  refused : ¬(200 ≤ s ∧ s ≤ 299) →
    ∃ f, reply = .error f ∧ f.Shows c.operation s (if b = "" then none else some b)
  /-- A success is enough for a call that is not answered in the body, whatever the text is. -/
  acknowledged : 200 ≤ s ∧ s ≤ 299 → Bodiless c → reply = .ok .done
  /-- The other calls have succeeded if the value on the text fits them, with the answer that it
  fits them as. -/
  answered : 200 ≤ s ∧ s ≤ 299 → ¬Bodiless c → ∀ v, Json.parseWritten b = .ok v →
    ∀ a, reply = .ok a ↔ Fits c v a
  /-- They have not if the text cannot be read at all. -/
  illegible : 200 ≤ s ∧ s ≤ 299 → ¬Bodiless c → ¬Legible c b → ∀ a, reply ≠ .ok a
  /-- In any case it is the text that says so. -/
  said : 200 ≤ s ∧ s ≤ 299 → ¬Bodiless c → ∀ a, reply = .ok a ↔ readAnswer c b = .ok a
  /-- Otherwise the call has failed with the text as it is. -/
  unread : 200 ≤ s ∧ s ≤ 299 → ∀ f, reply = .error f → f.Shows c.operation s (some b)
  /-- Whether it is worth another try is a matter of the status. -/
  retryable : ∀ f, reply = .error f → (f.fault.retryable = true ↔ 500 ≤ s ∨ s = 408 ∨ s = 429)
  /-- It never is after a success. -/
  settled : ∀ f, reply = .error f → 200 ≤ s ∧ s ≤ 299 → f.fault.retryable = false

theorem isSuccess_iff : isSuccess s = true ↔ 200 ≤ s ∧ s ≤ 299 := by
  simp [isSuccess]

theorem replyTo_of_refused (h : r.Carries b) (hs : ¬(200 ≤ r.status ∧ r.status ≤ 299)) :
    replyTo others c r = .error (c.failed (.http r.status b)) := by
  simp only [replyTo, Bool.eq_false_iff.mpr (mt isSuccess_iff.mp hs), h.complete, h.text]
  rfl

theorem replyTo_of_bodiless (hs : 200 ≤ r.status ∧ r.status ≤ 299) (hc : Bodiless c) :
    replyTo others c r = .ok .done := by
  simp only [replyTo, isSuccess_iff.mpr hs, answersInBody_eq_false_iff.mpr hc]
  rfl

theorem replyTo_of_body (h : r.Carries b) (hs : 200 ≤ r.status ∧ r.status ≤ 299)
    (hc : ¬Bodiless c) :
    replyTo others c r =
      (readAnswer c b).mapError fun e => c.failed (.decode r.status e.message b) := by
  have hbody : answersInBody c = true :=
    Bool.not_eq_false _ ▸ mt answersInBody_eq_false_iff.mp hc
  simp only [replyTo, isSuccess_iff.mpr hs, hbody, h.complete, h.text]
  rfl

/-- A failure after a response has its operation, its status, and something that was sent. -/
theorem shows_of_replyTo (h : r.Carries b) (hf : replyTo others c r = .error f) :
    ∃ body, f.Shows c.operation r.status body ∧
      (200 ≤ r.status ∧ r.status ≤ 299 → body = some b) := by
  by_cases hs : 200 ≤ r.status ∧ r.status ≤ 299
  · by_cases hc : Bodiless c
    · rw [replyTo_of_bodiless hs hc] at hf
      cases hf
    · rw [replyTo_of_body h hs hc] at hf
      cases hread : readAnswer c b with
      | ok a =>
        rw [hread] at hf
        cases hf
      | error e =>
        rw [hread] at hf
        cases hf
        exact ⟨some b, ⟨rfl, rfl, rfl, rfl⟩, fun _ => rfl⟩
  · rw [replyTo_of_refused h hs] at hf
    cases hf
    exact ⟨_, ⟨rfl, rfl, rfl, rfl⟩, fun hs' => absurd hs' hs⟩

/-- **The reply to a call is what its response comes to.** -/
theorem classified_replyTo (h : r.Carries b) :
    Classified c r.status b (replyTo others c r) where
  refused hs := ⟨_, replyTo_of_refused h hs, rfl, rfl, rfl, rfl⟩
  acknowledged hs hc := replyTo_of_bodiless hs hc
  answered hs hc v hv a := by
    rw [replyTo_of_body h hs hc, mapError_eq_ok_iff, readAnswer_eq_ok_iff hc hv]
  illegible hs hc hno a hreply := by
    rw [replyTo_of_body h hs hc, mapError_eq_ok_iff] at hreply
    exact hno (legible_of_readAnswer hc hreply)
  said hs hc a := by rw [replyTo_of_body h hs hc, mapError_eq_ok_iff]
  unread hs f hf := by
    obtain ⟨body, hshows, hbody⟩ := shows_of_replyTo h hf
    exact hbody hs ▸ hshows
  retryable f hf := by
    obtain ⟨body, hshows, -⟩ := shows_of_replyTo h hf
    exact Fault.retryable_iff_of_status hshows.sent hshows.status
  settled f hf hs := by
    obtain ⟨body, hshows, -⟩ := shows_of_replyTo h hf
    refine Bool.eq_false_iff.mpr fun hretryable => ?_
    have hstatus := (Fault.retryable_iff_of_status hshows.sent hshows.status).mp hretryable
    omega

/-! ### How a call ends -/

variable {σ : Type} {net : Network σ} {w : σ}

/-- The response that a call brings: its request can be sent, and a response comes. -/
def response? (net : Network σ) (base : Url) (c : Call) (w : σ) : Option Response :=
  match requestFor base c with
  | .error _ => none
  | .ok request =>
    let url := request.url.withoutCredentials
    if reachable url then (net.send { request with url } w).1 else none

/-- The only reason not to make a request is that there is no place for it. -/
theorem fault_of_requestFor (h : requestFor base c = .error fault) :
    ∃ message, fault = .unroutable message := by
  simp only [requestFor, endpoint] at h
  split at h
  · exact ⟨_, (Except.error.inj h).symm⟩
  · cases h

/-- **A request is made exactly for the calls that there is a place for.** -/
theorem exists_requestFor_iff : (∃ request, requestFor base c = .ok request) ↔ c.Routable := by
  constructor
  · rintro ⟨request, hrequest⟩ x suffix h
    exact named_of_requestFor h hrequest
  · intro hc
    exact ⟨_, requestFor_of_routable hc base⟩

/-- **How a call ends**: it is not made, it is made in vain, or its response decides. -/
theorem ask_cases (net : Network σ) (base : Url) (c : Call) (w : σ) :
    (¬c.Routable ∧ response? net base c w = none ∧
        ∃ message, ask net base c w = (.error (c.failed (.unroutable message)), w)) ∨
      c.Routable ∧
        ((∃ message, response? net base c w = none ∧
            (ask net base c w).1 = .error (c.failed (.transport message))) ∨
          ∃ r, response? net base c w = some r ∧
            (ask net base c w).1 = replyTo net.others c r) := by
  cases hrequest : requestFor base c with
  | error fault =>
    obtain ⟨message, rfl⟩ := fault_of_requestFor hrequest
    refine .inl ⟨fun hc => ?_, ?_, message, ?_⟩
    · obtain ⟨request, hmade⟩ := exists_requestFor_iff.mpr hc
      cases hrequest.symm.trans hmade
    · rw [response?, hrequest]
    · rw [ask, hrequest]
  | ok request =>
    refine .inr ⟨exists_requestFor_iff.mp ⟨request, hrequest⟩, ?_⟩
    simp only [response?, ask, hrequest]
    cases reachable request.url.withoutCredentials with
    -- a request that cannot be sent anywhere counts as one that was lost
    | false => exact .inl ⟨_, rfl, rfl⟩
    | true =>
      rw [if_pos rfl, if_neg (by decide)]
      obtain ⟨brought, v⟩ := net.send { request with url := request.url.withoutCredentials } w
      cases brought with
      | none => exact .inl ⟨_, rfl, rfl⟩
      | some r => exact .inr ⟨r, rfl, rfl⟩

/-- **A response decides what becomes of the call.** -/
theorem ask_of_response (h : response? net base c w = some r) :
    (ask net base c w).1 = replyTo net.others c r := by
  rcases ask_cases net base c w with ⟨-, hnone, -⟩ | ⟨-, ⟨_, hnone, -⟩ | ⟨r', hsome, hask⟩⟩
  · cases hnone.symm.trans h
  · cases hnone.symm.trans h
  · rw [hask, Option.some.inj (hsome.symm.trans h)]

/-- A call that there is a place for and that brings no response has failed on the way. -/
theorem ask_of_no_response (hc : c.Routable) (h : response? net base c w = none) :
    ∃ message, (ask net base c w).1 = .error (c.failed (.transport message)) := by
  rcases ask_cases net base c w with ⟨hno, -, -⟩ | ⟨-, ⟨message, -, hask⟩ | ⟨r, hsome, -⟩⟩
  · exact absurd hc hno
  · exact ⟨message, hask⟩
  · cases hsome.symm.trans h

/-- A response is never taken for nothing having been sent. -/
theorem sent_of_replyTo (h : replyTo others c r = .error f) : f.fault.sent = true := by
  rw [replyTo] at h
  split at h
  · cases h
    rfl
  · split at h
    · cases h
    · split at h
      · cases h
        rfl
      · cases hread : readAnswer c (r.text others) with
        | ok a =>
          rw [hread] at h
          cases h
        | error e =>
          rw [hread] at h
          cases h
          rfl

/-- **A fault says that something was sent** if a request was made. -/
theorem sent_iff (h : (ask net base c w).1 = .error f) : f.fault.sent = true ↔ c.Routable := by
  rcases ask_cases net base c w with ⟨hno, -, message, hask⟩ | ⟨hc, hcases⟩
  · rw [hask] at h
    cases h
    exact iff_of_false (by rintro ⟨⟩) hno
  · refine iff_of_true ?_ hc
    rcases hcases with ⟨message, -, hask⟩ | ⟨r, -, hask⟩
    · rw [hask] at h
      cases h
      rfl
    · exact sent_of_replyTo (hask.symm.trans h)

/-! ### What is sent -/

/-- **Something reaches the network** if there is a place for the call and the client takes its
request. -/
theorem recorded_ne_nil_iff {front : List String} (hbase : base.path = .segments front) :
    (ask net.recorded base c (w, [])).2.2 ≠ [] ↔ c.Routable ∧ Sendable base c := by
  by_cases hc : c.Routable
  · by_cases hsendable : Sendable base c
    · rw [sends_of_sendable hc hbase hsendable net w]
      exact iff_of_true (List.cons_ne_nil _ _) ⟨hc, hsendable⟩
    · rw [withheld_of_not_sendable hc hbase hsendable]
      exact iff_of_false (fun h => h rfl) fun h => hsendable h.2
  · rcases ask_cases net.recorded base c (w, []) with ⟨-, -, message, hask⟩ | ⟨hc', -⟩
    · rw [hask]
      exact iff_of_false (fun h => h rfl) fun h => hc h.1
    · exact absurd hc' hc

theorem response?_of_sendable {front : List String} (hbase : base.path = .segments front)
    (hc : c.Routable) (hsendable : Sendable base c) (net : Network σ) (w : σ) :
    response? net base c w =
      (net.send ⟨(route c).1, target base c, (route c).2.2⟩ w).1 := by
  simp only [response?, requestFor_of_routable hc base]
  exact if_pos ((reachable_target hbase c).mpr hsendable)

/-- **Whether a call tells what was sent**: if it fails without the status of a response, the fault
is worth another try exactly if a request reached the network. -/
def Candid (base : Url) (c : Call) : Prop :=
  ∀ {σ : Type} (net : Network σ) (w : σ) (f : CallFailure),
    (ask net.recorded base c (w, [])).1 = .error f → f.fault.status = none →
      (f.fault.retryable = true ↔ (ask net.recorded base c (w, [])).2.2 ≠ [])

/-- **Calls tell what was sent where the client takes their requests**, and those that there is no
place for do anyway. -/
theorem candid_iff {front : List String} (hbase : base.path = .segments front) :
    Candid base c ↔ (c.Routable → Sendable base c) := by
  constructor
  · intro hcandid hc
    by_cases hsendable : Sendable base c
    · exact hsendable
    · -- a request that is kept back looks like one that was lost
      have hwithheld := withheld_of_not_sendable hc hbase hsendable (Network.dead Unit).recorded
        ((), [])
      have hsent := (hcandid (Network.dead Unit) () _ (by rw [hwithheld]) rfl).mp rfl
      rw [hwithheld] at hsent
      exact absurd rfl hsent
  · intro hsendable σ net w f hf hstatus
    rw [Fault.retryable_of_status_eq_none hstatus, sent_iff hf, recorded_ne_nil_iff hbase]
    exact ⟨fun hc => ⟨hc, hsendable hc⟩, And.left⟩

/-! ### Callers -/

/-- The caller of an operation of a store is told what went wrong with its call. -/
theorem perform_of_failed {st st' : Store} {q : Rulebook.Request}
    (hs : st.start q = ⟨st', .ok q.call, []⟩) (h : (ask net base q.call w).1 = .error f) :
    (st.perform (service net base) q w).1.result = .error (.call f) := by
  have hreply : ((service net base).ask q.call w).1.bind q.confirm = .error f := by
    change (ask net base q.call w).1.bind q.confirm = _
    rw [h]
    rfl
  simp only [Store.perform, hs, Store.finish_of_error hreply]

/-- The caller of an evaluation is told what went wrong with its call. -/
theorem evaluate_of_failed {t : Trial} {st : Store} {id? : Option RuleId} {text : String}
    {e : Evaluation} (hp : Trial.prepare st id? text = .ok e)
    (h : (ask net base (.evaluateRule e) w).1 = .error f) :
    (t.evaluate (service net base) st id? text w).1.result = .error (.call f) := by
  have hreply : ((service net base).ask (.evaluateRule e) w).1 = .error f := h
  simp only [Trial.evaluate, hp, hreply, Trial.conclude, Trial.outcomeOf]

/-! ### The main result -/

/-- **What responses say of calls.** With any address of a service:

* a response decides what the call comes to, by its status and its text
  (`Rulebook.Http.Classified`);
* if none comes, a call that there is a place for has failed without one;
* a failure without the status of a response is worth another try exactly if it says that something
  was sent, and it says so exactly if there is a place for the call;
* if there are places below the address, something is sent exactly if there is a place for the call
  and the client takes its request, and then any response can come; and whether calls tell what was
  sent (`Rulebook.Http.Candid`) is a question of this as well;
* and whoever makes a call, with a store or a trial, is told of the very same failure. -/
theorem responses_classified (base : Url) :
    (∀ (c : Call) {σ : Type} (net : Network σ) (w : σ),
      (∀ r b, response? net base c w = some r → r.Carries b →
        Classified c r.status b (ask net base c w).1) ∧
      (c.Routable → response? net base c w = none → ∃ message,
        (ask net base c w).1 = .error ⟨c.operation, .transport message⟩) ∧
      ∀ f, (ask net base c w).1 = .error f →
        (f.fault.status = none → f.fault.retryable = f.fault.sent) ∧
          (f.fault.sent = true ↔ c.Routable)) ∧
    (base.Rooted → ∀ c : Call,
      (∀ {σ : Type} (net : Network σ) (w : σ),
        (ask net.recorded base c (w, [])).2.2 ≠ [] ↔ c.Routable ∧ Sendable base c) ∧
      (c.Routable → Sendable base c → ∃ request, ∀ {σ : Type} (net : Network σ) (w : σ),
        response? net base c w = (net.send request w).1) ∧
      (Candid base c ↔ (c.Routable → Sendable base c))) ∧
    ∀ {σ : Type} (net : Network σ) (w : σ) (st : Store) (f : CallFailure),
      (∀ (q : Rulebook.Request) (st' : Store), st.start q = ⟨st', .ok q.call, []⟩ →
        (ask net base q.call w).1 = .error f →
          (st.perform (service net base) q w).1.result = .error (.call f)) ∧
      ∀ (t : Trial) id? text e, Trial.prepare st id? text = .ok e →
        (ask net base (.evaluateRule e) w).1 = .error f →
          (t.evaluate (service net base) st id? text w).1.result = .error (.call f) := by
  refine ⟨fun c {σ} net w => ⟨fun r b hr hb => ?_, fun hc hnone => ?_, fun f hf => ?_⟩, ?_,
    fun {σ} net w st f => ⟨fun q st' hs h => ?_, fun t id? text e hp h => ?_⟩⟩
  · rw [ask_of_response hr]
    exact classified_replyTo hb
  · exact ask_of_no_response hc hnone
  · exact ⟨Fault.retryable_of_status_eq_none, sent_iff hf⟩
  · rintro ⟨front, hfront, -⟩ c
    refine ⟨fun net w => recorded_ne_nil_iff hfront, fun hc hsendable => ?_, candid_iff hfront⟩
    exact ⟨_, fun net w => response?_of_sendable hfront hc hsendable net w⟩
  · exact perform_of_failed hs h
  · exact evaluate_of_failed hp h

/-- A network on which every request brings a status and a text. -/
def Network.bringing (status : Nat) (text : String) : Network Unit where
  send _ w := (some ⟨status, none, Text.Utf8.encode text, true⟩, w)
  others _ := none

/-- An empty text is no body of an error, and it is the body of an answer that cannot be read. The
error of the service is worth another try, and the unreadable answer is not. A rule with a slash
in its identifier is switched if the answer says so. -/
theorem responses_classified_empty :
    (∃ f, (ask (.bringing 503 "") site .listRules ()).1 = .error f ∧
      f.Shows .loadRules 503 none ∧ f.fault.retryable = true) ∧
    (∃ f, (ask (.bringing 200 "") site .listRules ()).1 = .error f ∧
      f.Shows .loadRules 200 (some "") ∧ f.fault.retryable = false) ∧
    (ask (.bringing 200 "\x7b\"new_status\":true\x7d") site (.toggleStatus ⟨"a/b"⟩) ()).1 =
      .ok (.status true) := by
  have hlist : Call.listRules.Routable := by rintro x suffix ⟨⟩
  have htoggle : (Call.toggleStatus ⟨"a/b"⟩).Routable := by
    rintro x suffix ⟨⟩
    decide
  obtain ⟨hends, hsent, -⟩ := responses_classified site
  have hclassified (c : Call) (hc : c.Routable) (hreachable : reachable (target site c) = true)
      (s : Nat) (b : String) (hb : b.toList.head? ≠ some '\uFEFF') :
      Classified c s b (ask (.bringing s b) site c ()).1 := by
    obtain ⟨request, hrequest⟩ := (hsent (rooted_of_address address_site) c).2.1 hc
      ((reachable_target rfl c).mp hreachable)
    exact (hends c (.bringing s b) ()).1 _ b (hrequest _ ()) ⟨rfl, nofun, rfl, hb⟩
  refine ⟨?_, ?_, ?_⟩
  · have h := hclassified .listRules hlist (by decide +kernel) 503 "" (by decide)
    obtain ⟨f, hf, hshows⟩ := h.refused (by decide)
    exact ⟨f, hf, hshows, (h.retryable f hf).mpr (.inl (by decide))⟩
  · have h := hclassified .listRules hlist (by decide +kernel) 200 "" (by decide)
    cases hask : (ask (.bringing 200 "") site .listRules ()).1 with
    | ok a =>
      have hno : ¬Legible .listRules "" := by rintro ⟨rest, ⟨⟩, -⟩
      exact absurd hask (h.illegible (by decide) nofun hno a)
    | error f => exact ⟨f, rfl, h.unread (by decide) f hask, h.settled f hask (by decide)⟩
  · have h := hclassified (.toggleStatus ⟨"a/b"⟩) htoggle (by decide +kernel) 200
      "\x7b\"new_status\":true\x7d" (by decide)
    have hbody : Json.parseWritten "\x7b\"new_status\":true\x7d" =
        .ok (.object [("new_status", .bool true)]) := toOption_eq_some_iff.mp (by decide +kernel)
    exact (h.answered (by decide) nofun _ hbody _).mpr (.status (.object rfl))

/-- An address that is not on the web. -/
def ftpSite : Url := ⟨"ftp", some ⟨"", none, "h", none⟩, .segments [""], none, none⟩

/-- **Not everything is sent that is said to be.** An address that is not on the web is accepted,
and whatever the network is like, the list of rules fails there without any request, as if one had
been sent and lost, and as worth another try. -/
theorem unsent_retryable :
    address "ftp://h/" = .ok ftpSite ∧ Call.listRules.Routable ∧
      ∀ {σ : Type} (net : Network σ) (w : σ), ∃ f,
        ask net.recorded ftpSite .listRules (w, []) = (.error f, (w, [])) ∧
          f.fault.status = none ∧ f.fault.sent = true ∧ f.fault.retryable = true := by
  have hlist : Call.listRules.Routable := by rintro x suffix ⟨⟩
  have hnot : ¬Sendable ftpSite .listRules := by
    intro h
    exact absurd h.web (by decide)
  refine ⟨toOption_eq_some_iff.mp (by decide +kernel), hlist, fun net w => ?_⟩
  exact ⟨_, withheld_of_not_sendable hlist rfl hnot net.recorded (w, []), rfl, rfl, rfl⟩

end Http

end Rulebook
