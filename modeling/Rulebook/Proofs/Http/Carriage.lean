import Rulebook.Proofs.Http.Address
import Rulebook.Proofs.UserData

/-!
# What requests carry

A call is carried by one request, and a service that knows nothing but the request can tell
which call it was, with all its arguments (`Rulebook.Http.calls_carried`). There is such a request
if the client takes it (`Rulebook.Http.Sendable`), which is a question of the address only: the
scheme, the characters of the host, and the length. What the client does not take is not sent, and
the call fails with the same fault as on a broken connection (`Rulebook.Http.Withheld`). So an
address that is accepted need not be of any use (`Rulebook.Http.uncarried_braces`).

What a service does with a request is written down as `Rulebook.Http.understood?`: it goes by the
method, by the names of the segments below its own address, and by the value that the body says.
A request is read in this way (`Rulebook.Http.ReadAs`) with nothing in hand but what was sent:
the segments are those of the URL, with their escapes resolved, and the body is parsed as JSON.

Texts can be anything. What an identifier in a path can be is the subject of
`Rulebook.Proofs.Http.Address`: here it names a segment and holds no tab and no line break. User
data lie one level deeper in a body than by themselves, so they are carried if they are nested at
most 126 deep (`Rulebook.Call.Plain`).
-/

namespace Rulebook

open Json

/-! ### Plain arguments -/

/-- **Whether a text is a segment by itself**: it names one, and holds nothing that is left out
of a URL. -/
structure Url.Plain (name : String) : Prop where
  named : ¬Nameless name
  kept : ∀ c ∈ name.toList, isIgnored c = false

/-- A text is looked through character by character. -/
theorem Url.plain_of_all {name : String} (hnamed : ¬Nameless name)
    (hkept : name.toList.all (! isIgnored ·) = true) : Plain name where
  named := hnamed
  kept c hc := by simpa using List.all_eq_true.mp hkept c hc

/-- **Whether a call has only arguments that can be carried.** Rules that a body names, and texts
of rules, can be anything. -/
structure Call.Plain (c : Call) : Prop where
  rule : ∀ x suffix, c.onRule? = some (x, suffix) → Url.Plain x.text
  data : ∀ e, c = .evaluateRule e → e.data.Exact 126 ∧ e.data.Ordered

theorem Call.Plain.routable {c : Call} (hc : c.Plain) : c.Routable :=
  fun x suffix h => (hc.rule x suffix h).named

namespace Http

open Url (Nameless kept written)

variable {base : Url} {c : Call} {names : List String} {request : Request} {body : Value}

/-! ### The service's side -/

/-- The rules in a list of identifiers. -/
def readIds (xs : List Value) : Option (List RuleId) :=
  xs.mapM fun
    | .string x => some ⟨x⟩
    | _ => none

/-- **The call that a service understands**, from the method of a request, the names of the
segments below its address, and the value of the body. -/
def understood? : Method → List String → Option Value → Option Call
  | .get, ["rules"], none => some .listRules
  | .post, ["create_rule"], some (.object [("rule_string", .string text)]) =>
    some (.createRule text)
  | .delete, ["rules", x], none => some (.deleteRule ⟨x⟩)
  | .patch, ["rules", x, "toggle_status"], none => some (.toggleStatus ⟨x⟩)
  | .patch, ["rules", x, "update"], some (.object [("rule_string", .string text)]) =>
    some (.updateRule ⟨x⟩ text)
  | .post, ["evaluate_rule"], some (.object [("rule_id", .string x), ("user_data", data)]) =>
    some (.evaluateRule ⟨⟨x⟩, data⟩)
  | .post, ["combine_rules"], some (.object [("rule_ids", .array xs)]) =>
    (readIds xs).map .combineRules
  | _, _, _ => none

/-- The name that a segment stands for. -/
def readSegment (segment : String) : Except Text.Utf8.Flaw String :=
  Text.Utf8.decode? (Url.unescape segment)

/-- **A service at an address reads a request as a call**: the segments below its address stand
for some names, the body, if there is one, says a value, and that is how it understands the
call. -/
def ReadAs (base : Url) (request : Request) (c : Call) : Prop :=
  ∃ segments names body?,
    Below base segments request.url ∧
    (∀ s ∈ segments, s ≠ "" ∧ ∀ d ∈ s.toList, d ≠ '/' ∧ d ≠ '?' ∧ d ≠ '#') ∧
    segments.mapM readSegment = .ok names ∧
    request.text?.mapM Json.parse = .ok body? ∧
    understood? request.method names body? = some c

theorem readIds_toJson (xs : List RuleId) : readIds (xs.map RuleId.toJson) = some xs := by
  induction xs with
  | nil => rfl
  | cons x xs ih =>
    rw [readIds] at ih
    rw [readIds, List.map_cons, List.mapM_cons, ih]
    rfl

/-- **A service understands a call from its route.** -/
theorem understood?_route (c : Call) :
    understood? (route c).1 (route c).2.1 (route c).2.2 = some c := by
  cases c with
  | combineRules xs =>
    change (readIds (xs.map RuleId.toJson)).map Call.combineRules = _
    rw [readIds_toJson]
    rfl
  | _ => rfl

/-! ### Bodies -/

/-- **Every body is kept by its text.** -/
theorem parse_body (hc : c.Plain) (hbody : (route c).2.2 = some body) :
    Json.parse body.compact = .ok body := by
  have hkept (v : Value) (hv : v.Exact 127 ∧ v.Ordered) : Json.parse v.compact = .ok v := by
    rw [parse_compact hv.1, hv.2.settled_eq]
  refine hkept body ?_
  cases c with
  | listRules => cases hbody
  | createRule text =>
    cases hbody
    simp [Increasing]
  | deleteRule x => cases hbody
  | toggleStatus x => cases hbody
  | updateRule x text =>
    cases hbody
    simp [Increasing]
  | evaluateRule e =>
    cases hbody
    have hdata := hc.data e rfl
    have hinc : Increasing [("rule_id", .string e.rule.text), ("user_data", e.data)] := by
      change ["rule_id", "user_data"].Pairwise (· < ·)
      decide
    simp [Evaluation.toJson, RuleId.toJson, hdata, hinc]
  | combineRules xs =>
    cases hbody
    simp [Increasing, RuleId.toJson]

/-- The text of the body is read as the body that was meant. -/
theorem mapM_parse_body (hc : c.Plain) (url : Url) :
    (Request.text? ⟨(route c).1, url, (route c).2.2⟩).mapM Json.parse = .ok (route c).2.2 := by
  cases hbody : (route c).2.2 with
  | none => rfl
  | some body =>
    change (some body.compact).mapM Json.parse = _
    rw [Option.mapM_some, parse_body hc hbody]
    rfl

/-! ### Addresses -/

/-- **All names in the route of a call are segments by themselves**. -/
theorem plain_of_mem_route (hc : c.Plain) : ∀ s ∈ (route c).2.1, Url.Plain s := by
  have hrules : Url.Plain "rules" := Url.plain_of_all (by decide) (by decide)
  cases c with
  | listRules => simp [route, hrules]
  | createRule text =>
    have hcreate : Url.Plain "create_rule" := Url.plain_of_all (by decide) (by decide)
    simp [route, hcreate]
  | deleteRule x => simp [route, hrules, hc.rule x [] rfl]
  | toggleStatus x =>
    have htoggle : Url.Plain "toggle_status" := Url.plain_of_all (by decide) (by decide)
    simp [route, hrules, hc.rule x ["toggle_status"] rfl, htoggle]
  | updateRule x text =>
    have hupdate : Url.Plain "update" := Url.plain_of_all (by decide) (by decide)
    simp [route, hrules, hc.rule x ["update"] rfl, hupdate]
  | evaluateRule e =>
    have hevaluate : Url.Plain "evaluate_rule" := Url.plain_of_all (by decide) (by decide)
    simp [route, hevaluate]
  | combineRules xs =>
    have hcombine : Url.Plain "combine_rules" := Url.plain_of_all (by decide) (by decide)
    simp [route, hcombine]

theorem mapM_readSegment_written {special : Bool} (h : ∀ s ∈ names, Url.Plain s) :
    (names.map (written special)).mapM readSegment = .ok names := by
  induction names with
  | nil => rfl
  | cons s names ih =>
    rw [List.forall_mem_cons] at h
    have hs : readSegment (written special s) = .ok s := by
      rw [readSegment, Url.decode?_written, Url.kept_eq h.1.kept]
    rw [List.map_cons, List.mapM_cons, hs, ih h.2]
    rfl

/-- **A URL is extended by one segment for each name.** -/
theorem below_extend {front : List String} (hbase : base.path = .segments front)
    (hnames : names ≠ []) (h : ∀ s ∈ names, Url.Plain s) :
    Below base (names.map (written (Url.isSpecial base.scheme))) (base.extend names) := by
  obtain ⟨empties, hroot, hempties⟩ := Url.exists_root front
  refine ⟨Url.root front, empties, hroot ▸ hbase, hempties, Url.extend_eq hbase ?_ hnames⟩
  intro s hs
  rw [Url.kept_eq (h s hs).kept]
  exact (h s hs).named

/-- Credentials are no part of a path. -/
theorem Below.withoutCredentials {segments : List String} {url : Url}
    (h : Below base segments url) :
    Below base.withoutCredentials segments url.withoutCredentials := by
  obtain ⟨front, empties, hpath, hempties, rfl⟩ := h
  have hkept : base.withoutCredentials.path = base.path := by
    have h := congrArg Url.path (withoutCredentials_path base base.path)
    exact h
  exact ⟨front, empties, hkept.trans hpath, hempties, withoutCredentials_path base _⟩

/-! ### What is sent -/

/-- A network that keeps a record of the requests that were sent. -/
def Network.recorded {σ : Type} (net : Network σ) : Network (σ × List Request) where
  send request w := ((net.send request w.1).1, (net.send request w.1).2, w.2 ++ [request])
  others := net.others

/-- **A call sends one request**, and no other, whatever becomes of it. -/
def Sends (base : Url) (c : Call) (request : Request) : Prop :=
  ∀ {σ : Type} (net : Network σ) (w : σ), (ask net.recorded base c (w, [])).2.2 = [request]

/-- The URL that a call goes to. -/
def target (base : Url) (c : Call) : Url := (base.extend (route c).2.1).withoutCredentials

/-- **A call is withheld**: nothing is sent, and it fails as if the connection had broken. -/
def Withheld (base : Url) (c : Call) : Prop :=
  ∀ {σ : Type} (net : Network σ) (w : σ),
    ask net base c w =
      (.error (c.failed (.transport s!"builder error for url ({(target base c).text})")), w)

/-- The host of a URL that has one. -/
def host? (u : Url) : Option String := u.authority?.map (·.host)

/-- **Whether the client takes the request of a call**: the address of the service is on the web
and its host has no characters but those that a host of a request can have, and what the call goes
to is not too long. -/
structure Sendable (base : Url) (c : Call) : Prop where
  web : base.scheme = "http" ∨ base.scheme = "https"
  host : ∃ host, host? base = some host ∧ ∀ d ∈ host.toList, isHostChar d = true
  size : (target base c).text.utf8ByteSize ≤ maxUrlSize

theorem withoutCredentials_scheme (u : Url) : u.withoutCredentials.scheme = u.scheme := by
  rw [Url.withoutCredentials]
  split
  · rfl
  · split <;> rfl

/-- Credentials are no part of a host. -/
theorem host?_withoutCredentials (u : Url) : host? u.withoutCredentials = host? u := by
  obtain ⟨scheme, authority?, path, query?, fragment?⟩ := u
  cases authority? with
  | none => rfl
  | some a =>
    simp only [Url.withoutCredentials]
    split <;> rfl

/-- **What can be reached**, in terms of the parts of a URL. -/
theorem reachable_iff {url : Url} :
    reachable url = true ↔ (url.scheme = "http" ∨ url.scheme = "https") ∧
      (∃ host, host? url = some host ∧ ∀ d ∈ host.toList, isHostChar d = true) ∧
      url.text.utf8ByteSize ≤ maxUrlSize := by
  obtain ⟨scheme, authority?, path, query?, fragment?⟩ := url
  cases authority? <;> simp [reachable, onWeb, host?, and_assoc, and_comm]

/-- **The client takes a request exactly if it can reach what the call goes to.** -/
theorem reachable_target {front : List String} (hbase : base.path = .segments front) (c : Call) :
    reachable (target base c) = true ↔ Sendable base c := by
  have htarget : ∃ names, target base c = { base.withoutCredentials with path := names } := by
    rw [target, Url.extend, hbase]
    exact ⟨_, withoutCredentials_path base _⟩
  obtain ⟨names, htarget⟩ := htarget
  have hscheme : (target base c).scheme = base.scheme := by
    rw [htarget]
    exact withoutCredentials_scheme base
  have hhost : host? (target base c) = host? base := by
    rw [htarget]
    exact host?_withoutCredentials base
  rw [reachable_iff, hscheme, hhost]
  constructor
  · rintro ⟨hweb, hhost, hsize⟩
    exact ⟨hweb, hhost, hsize⟩
  · intro h
    exact ⟨h.web, h.host, h.size⟩

theorem sends_of_sendable (hc : c.Routable) {front : List String}
    (hbase : base.path = .segments front) (hsendable : Sendable base c) :
    Sends base c ⟨(route c).1, target base c, (route c).2.2⟩ := by
  intro σ net w
  rw [ask_of_request (requestFor_of_routable hc base)]
  dsimp only
  rw [← target, if_pos ((reachable_target hbase c).mpr hsendable)]
  rfl

theorem withheld_of_not_sendable (hc : c.Routable) {front : List String}
    (hbase : base.path = .segments front) (hnot : ¬Sendable base c) : Withheld base c := by
  intro σ net w
  have hunreachable : reachable (target base c) = false :=
    Bool.eq_false_iff.mpr fun h => hnot ((reachable_target hbase c).mp h)
  rw [ask, requestFor_of_routable hc base]
  dsimp only
  rw [← target, hunreachable]
  rfl

theorem readAs_of_plain (hc : c.Plain) {front : List String} (hbase : base.path = .segments front) :
    ReadAs base.withoutCredentials ⟨(route c).1, target base c, (route c).2.2⟩ c := by
  have hplain := plain_of_mem_route hc
  have hnames : (route c).2.1 ≠ [] := by
    cases c <;> exact List.cons_ne_nil _ _
  refine ⟨_, (route c).2.1, (route c).2.2, (below_extend hbase hnames hplain).withoutCredentials,
    ?_, mapM_readSegment_written hplain, mapM_parse_body hc _, understood?_route c⟩
  refine List.forall_mem_map.mpr fun s hs => ⟨Url.written_ne_empty ?_, fun d hd => ?_⟩
  · rw [Url.kept_eq (hplain s hs).kept]
    exact (hplain s hs).named
  · exact Url.mem_written hd

theorem plain_evaluate {t : String} {v : Value} (ht : UserData.decode t = .ok v)
    (hv : v.Exact 126) (x : RuleId) : (Call.evaluateRule ⟨x, v⟩).Plain where
  rule y suffix h := nomatch h
  data e he := by
    cases he
    exact ⟨hv, UserData.ordered_of_decode ht⟩

/-! ### The main result -/

/-- **Calls are carried without loss.** There are places below every address of a service that is
accepted, and with any URL of which this is so:

* a call with plain arguments that the client takes sends exactly one request, and the service at
  this address reads it as that very call;
* so does the evaluation of any rule on what was decoded from a text, if there are no other
  numbers in it than integers in range and it is nested at most 126 deep;
* and what the client does not take is withheld. -/
theorem calls_carried :
    (∀ baseUrl base, address baseUrl = .ok base → base.Rooted) ∧
    ∀ base : Url, base.Rooted →
      (∀ c : Call, c.Plain → Sendable base c →
        ∃ request, Sends base c request ∧ ReadAs base.withoutCredentials request c) ∧
      (∀ (t : String) (v : Value) (x : RuleId), UserData.decode t = .ok v → v.Exact 126 →
        Sendable base (.evaluateRule ⟨x, v⟩) →
          ∃ request, Sends base (.evaluateRule ⟨x, v⟩) request ∧
            ReadAs base.withoutCredentials request (.evaluateRule ⟨x, v⟩)) ∧
      ∀ c : Call, c.Plain → ¬Sendable base c → Withheld base c := by
  refine ⟨fun baseUrl base hbase => rooted_of_address hbase, ?_⟩
  rintro base ⟨front, hfront, -⟩
  have hcarried (c : Call) (hc : c.Plain) (hsendable : Sendable base c) :
      ∃ request, Sends base c request ∧ ReadAs base.withoutCredentials request c :=
    ⟨_, sends_of_sendable hc.routable hfront hsendable, readAs_of_plain hc hfront⟩
  refine ⟨hcarried, fun t v x ht hv hsendable => ?_, fun c hc hnot => ?_⟩
  · exact hcarried _ (plain_evaluate ht hv x) hsendable
  · exact withheld_of_not_sendable hc.routable hfront hnot

/-- Data that were typed with spaces, with an escape and with a name twice. -/
def typedData : String := " \x7b \"a\":0, \"\\u0061\": -1\x7d"

theorem decode_typedData :
    UserData.decode typedData = .ok (.object [("a", .integer (-1))]) := by
  have hblank : Text.blank typedData = false := by decide
  have hparse : Json.parse typedData = .ok (.object [("a", .integer (-1))]) :=
    toOption_eq_some_iff.mp (by decide +kernel)
  rw [UserData.decode, hblank, hparse]
  rfl

theorem plain_update {x : RuleId} {text : String} (hx : Url.Plain x.text) :
    (Call.updateRule x text).Plain where
  rule y suffix h := by
    obtain ⟨rfl, rfl⟩ := Prod.mk.inj (Option.some.inj h)
    exact hx
  data e h := nomatch h

/-- An update with an identifier that looks like a path and a text that needs escapes, and an
evaluation on data as they were typed. -/
theorem calls_carried_escaped :
    (∃ request, Sends site (.updateRule ⟨"../%2e 规"⟩ "\"a\\\n") request ∧
      ReadAs site.withoutCredentials request (.updateRule ⟨"../%2e 规"⟩ "\"a\\\n")) ∧
    ∃ request, Sends site (.evaluateRule ⟨⟨""⟩, .object [("a", .integer (-1))]⟩) request ∧
      ReadAs site.withoutCredentials request
        (.evaluateRule ⟨⟨""⟩, .object [("a", .integer (-1))]⟩) := by
  obtain ⟨hrooted, hcarried⟩ := calls_carried
  obtain ⟨hcalls, hdata, -⟩ := hcarried site (hrooted _ _ address_site)
  have hid : Url.Plain "../%2e 规" := Url.plain_of_all (by decide) (by decide)
  have hexact : (Value.object [("a", .integer (-1))]).Exact 126 := by
    simp [InIntegerRange]
  have hupdate : Sendable site (.updateRule ⟨"../%2e 规"⟩ "\"a\\\n") :=
    (reachable_target rfl _).mp (by decide +kernel)
  have hevaluate : Sendable site (.evaluateRule ⟨⟨""⟩, .object [("a", .integer (-1))]⟩) :=
    (reachable_target rfl _).mp (by decide +kernel)
  exact ⟨hcalls _ (plain_update hid) hupdate,
    hdata typedData _ ⟨""⟩ decode_typedData hexact hevaluate⟩

/-- An address with braces in its host. -/
def bracedSite : Url :=
  ⟨"http", some ⟨"", none, "\x7bhost\x7d", none⟩, .segments ["api"], none, none⟩

/-- **Not every address on the web can be sent to.** An address with braces in its host is
accepted, and every call to it is withheld. -/
theorem uncarried_braces :
    address "http://\x7bhost\x7d/api" = .ok bracedSite ∧ bracedSite.scheme = "http" ∧
      Call.listRules.Plain ∧ Withheld bracedSite .listRules ∧
      ∀ request, ¬Sends bracedSite .listRules request := by
  have hplain : Call.listRules.Plain := ⟨(nomatch ·, ·, ·), (nomatch ·, ·)⟩
  have hnot : ¬Sendable bracedSite .listRules := by
    intro h
    exact absurd ((reachable_target rfl _).mpr h) (by decide +kernel)
  have hwithheld : Withheld bracedSite .listRules :=
    withheld_of_not_sendable hplain.routable rfl hnot
  have haddress : address "http://\x7bhost\x7d/api" = .ok bracedSite :=
    toOption_eq_some_iff.mp (by decide +kernel)
  refine ⟨haddress, rfl, hplain, hwithheld, fun request hsends => ?_⟩
  have hnothing := hsends (Network.dead Unit) ()
  rw [hwithheld] at hnothing
  cases hnothing

end Http

end Rulebook
