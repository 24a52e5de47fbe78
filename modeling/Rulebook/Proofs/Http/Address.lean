import Rulebook.Http.Client
import Rulebook.Proofs.Result
import Rulebook.Proofs.Url.Extend
import Rulebook.Proofs.Url.Parser

/-!
# Where a rule is addressed

A call on a rule is to reach this rule or nothing. It is refused before anything is sent if
the identifier names no segment (`Rulebook.Http.Refused`), and otherwise its request should go
to a place of its own, one segment below `rules` (`Rulebook.Http.Addressed`). That is so
for an identifier exactly if the test is right about it (`Rulebook.Http.Tested`): the test
looks at the whole identifier, but tabs and line breaks are left out of the address
afterwards, and dots or nothing may be what is left (`Rulebook.Http.rule_addressed`). For the
same reason two identifiers share an address if they differ in tabs and line breaks only.

Of the address of the service all this needs is that there are places below it
(`Rulebook.Url.Rooted`), as there are for every one that is accepted
(`Rulebook.Http.rooted_of_address`). A request that was made is not always sent: the client keeps
back what cannot be one on the web (`Rulebook.Http.reachable`), and then nothing leaves either.
-/

namespace Rulebook

/-- The rule that a call is on, and what follows it in the address of the call. -/
def Call.onRule? : Call → Option (RuleId × List String)
  | .deleteRule x => some (x, [])
  | .toggleStatus x => some (x, ["toggle_status"])
  | .updateRule x _ => some (x, ["update"])
  | _ => none

/-- **Whether there is a place for a call**: the rule that it is on, if it is on one, names a
segment. -/
def Call.Routable (c : Call) : Prop :=
  ∀ x suffix, c.onRule? = some (x, suffix) → ¬Url.Nameless x.text

namespace Http

open Url (Nameless kept written root trimmed pushSegment)

variable {base : Url} {c : Call} {x : RuleId} {suffix names : List String} {request : Request}

/-! ### Calls on rules -/

/-- A word that is written as it is, and names a segment. -/
structure Word (s : String) : Prop where
  kept : kept s = s
  named : ¬Nameless s
  written : ∀ special, written special s = s

theorem word_rules : Word "rules" where
  kept := by decide
  named := by decide
  written := by decide

theorem word_of_onRule? (h : c.onRule? = some (x, suffix)) : ∀ s ∈ suffix, Word s := by
  have htoggle : Word "toggle_status" := ⟨by decide, by decide, by decide⟩
  have hupdate : Word "update" := ⟨by decide, by decide, by decide⟩
  cases c <;> cases h
  · exact fun s hs => absurd hs List.not_mem_nil
  · exact fun s hs => List.mem_singleton.mp hs ▸ htoggle
  · exact fun s hs => List.mem_singleton.mp hs ▸ hupdate

/-- Calls on rules are told apart by what follows the rule, whatever else they carry. -/
theorem requestFor_of_onRule? (h : c.onRule? = some (x, suffix)) (base : Url) :
    requestFor base c = (endpoint base ("rules" :: x.text :: suffix)).map fun url =>
      ⟨(route c).1, url, (route c).2.2⟩ := by
  cases c <;> cases h <;>
  · simp only [requestFor, route]
    cases endpoint base _ <;> rfl

/-! ### The test -/

/-- **Whether the test is right about an identifier**: if what is left of it in an address
names no segment, the identifier itself names none. -/
def Tested (s : String) : Prop := Nameless (kept s) → Nameless s

instance (s : String) : Decidable (Tested s) := inferInstanceAs (Decidable (_ → _))

theorem endpoint_of_nameless {s : String} (hs : Nameless s) (base : Url) (suffix : List String) :
    ∃ message, endpoint base ("rules" :: s :: suffix) = .error (.unroutable message) := by
  rw [endpoint, List.find?_cons_of_neg (by decide),
    List.find?_cons_of_pos (by simpa [Nameless, or_assoc] using hs)]
  exact ⟨_, rfl⟩

theorem endpoint_of_forall (h : ∀ s ∈ names, ¬Nameless s) (base : Url) :
    endpoint base names = .ok (base.extend names) := by
  have htest : names.find? (fun s => s == "" || s == "." || s == "..") = none := by
    refine List.find?_eq_none.mpr fun s hs => ?_
    simpa [Nameless, or_assoc] using h s hs
  rw [endpoint, htest]

theorem requestFor_of_named (h : c.onRule? = some (x, suffix)) (hx : ¬Nameless x.text)
    (base : Url) :
    requestFor base c =
      .ok ⟨(route c).1, base.extend ("rules" :: x.text :: suffix), (route c).2.2⟩ := by
  have hnames : ∀ s ∈ "rules" :: x.text :: suffix, ¬Nameless s := by
    refine List.forall_mem_cons.mpr ⟨word_rules.named, List.forall_mem_cons.mpr ⟨hx, ?_⟩⟩
    exact fun s hs => (word_of_onRule? h s hs).named
  rw [requestFor_of_onRule? h, endpoint_of_forall hnames]
  rfl

theorem named_of_mem_route (hc : c.Routable) : ∀ s ∈ (route c).2.1, ¬Nameless s := by
  have hrules : ¬Nameless "rules" := word_rules.named
  cases c with
  | listRules => simp [route, hrules]
  | createRule text =>
    have hcreate : ¬Nameless "create_rule" := by decide
    simp [route, hcreate]
  | deleteRule x => simp [route, hrules, hc x [] rfl]
  | toggleStatus x =>
    have htoggle : ¬Nameless "toggle_status" := by decide
    simp [route, hrules, hc x ["toggle_status"] rfl, htoggle]
  | updateRule x text =>
    have hupdate : ¬Nameless "update" := by decide
    simp [route, hrules, hc x ["update"] rfl, hupdate]
  | evaluateRule e =>
    have hevaluate : ¬Nameless "evaluate_rule" := by decide
    simp [route, hevaluate]
  | combineRules xs =>
    have hcombine : ¬Nameless "combine_rules" := by decide
    simp [route, hcombine]

/-- **A request is made for every call that there is a place for.** -/
theorem requestFor_of_routable (hc : c.Routable) (base : Url) :
    requestFor base c = .ok ⟨(route c).1, base.extend (route c).2.1, (route c).2.2⟩ := by
  have hend := endpoint_of_forall (named_of_mem_route hc) base
  simp only [requestFor, hend]
  rfl

/-! ### What is sent -/

/-- **What comes of a request**: it is handed to the client without credentials, which sends it
once if it can be sent at all. -/
theorem ask_of_request (h : requestFor base c = .ok request) {σ : Type} (net : Network σ)
    (w : σ) :
    (ask net base c w).2 =
      if reachable request.url.withoutCredentials then
        (net.send { request with url := request.url.withoutCredentials } w).2
      else w := by
  rw [ask, h]
  dsimp only
  cases reachable request.url.withoutCredentials with
  | false => rfl
  | true =>
    rw [if_neg (by decide), if_pos rfl]
    split <;> rename_i heq <;> rw [heq]

/-! ### Where it is sent -/

/-- **A call is refused** if it comes back as unroutable and nothing is sent. -/
def Refused (base : Url) (c : Call) : Prop :=
  ∃ message, ∀ {σ : Type} (net : Network σ) (w : σ),
    ask net base c w = (.error (c.failed (.unroutable message)), w)

/-- Whether a URL is another one with segments put below its path, where empty segments at the
end of the path do not count. -/
def Below (base : Url) (names : List String) (url : Url) : Prop :=
  ∃ front empties, base.path = .segments (front ++ empties) ∧ (∀ s ∈ empties, s = "") ∧
    url = { base with path := .segments (front ++ names) }

/-- **A call on a rule is addressed** if its request goes to the place below `rules` that one
segment names, which is not empty and stands for the text `name`, and on from there. -/
def Addressed (base : Url) (c : Call) (name : String) (suffix : List String) : Prop :=
  ∃ request segment, requestFor base c = .ok request ∧
    Below base ("rules" :: segment :: suffix) request.url ∧
    segment ≠ "" ∧ (∀ d ∈ segment.toList, d ≠ '/' ∧ d ≠ '?' ∧ d ≠ '#') ∧
    Text.Utf8.decode? (Url.unescape segment) = .ok name

theorem refused_of_nameless (h : c.onRule? = some (x, suffix)) (hx : Nameless x.text)
    (base : Url) : Refused base c := by
  obtain ⟨message, hmessage⟩ := endpoint_of_nameless hx base suffix
  refine ⟨message, fun net w => ?_⟩
  rw [ask, requestFor_of_onRule? h, hmessage]
  rfl

theorem not_refused (h : requestFor base c = .ok request) : ¬Refused base c := by
  rintro ⟨message, hrefused⟩
  have hlost := hrefused (Network.dead Unit) ()
  rw [ask, h] at hlost
  dsimp only at hlost
  split at hlost <;> cases hlost

theorem map_written_of_words {special : Bool} (h : ∀ s ∈ names, Word s) :
    names.map (written special) = names := by
  rw [List.map_congr_left fun s hs => (h s hs).written special, List.map_id']

/-- **The address of a rule whose identifier leaves a name**: one segment for it below
`rules`. -/
theorem extend_of_named (hbase : base.path = .segments names)
    (hsuffix : ∀ s ∈ suffix, Word s) {s : String} (hs : ¬Nameless (kept s)) :
    base.extend ("rules" :: s :: suffix) =
      { base with
        path := .segments
          (root names ++ "rules" :: written (Url.isSpecial base.scheme) s :: suffix) } := by
  have hnames : ∀ t ∈ "rules" :: s :: suffix, ¬Nameless (kept t) := by
    refine List.forall_mem_cons.mpr ⟨?_, List.forall_mem_cons.mpr ⟨hs, fun t ht => ?_⟩⟩
    · rw [word_rules.kept]
      exact word_rules.named
    · rw [(hsuffix t ht).kept]
      exact (hsuffix t ht).named
  rw [Url.extend_eq hbase hnames (List.cons_ne_nil _ _), List.map_cons, List.map_cons,
    word_rules.written, map_written_of_words hsuffix]

theorem addressed_of_named (hbase : base.path = .segments names)
    (h : c.onRule? = some (x, suffix)) (hx : ¬Nameless x.text) (hkept : ¬Nameless (kept x.text)) :
    Addressed base c (kept x.text) suffix := by
  obtain ⟨empties, hroot, hempties⟩ := Url.exists_root names
  refine ⟨_, written (Url.isSpecial base.scheme) x.text, requestFor_of_named h hx base, ?_,
    Url.written_ne_empty hkept, fun d hd => Url.mem_written hd, Url.decode?_written _ _⟩
  exact ⟨root names, empties, hroot ▸ hbase, hempties,
    extend_of_named hbase (word_of_onRule? h) hkept⟩

/-- The address that a test lets through by mistake ends in an empty segment before it goes
on, or has nothing before that. -/
theorem extend_of_nameless (hbase : base.path = .segments names)
    (hsuffix : ∀ s ∈ suffix, Word s) {s : String} (hs : Nameless (kept s)) :
    ∃ front, (front = [] ∨ ∃ before, front = before ++ [""]) ∧
      base.extend ("rules" :: s :: suffix) =
        { base with path := .segments (front ++ suffix) } := by
  rw [Url.extend, hbase]
  dsimp only
  rw [List.foldl_cons, List.foldl_cons]
  obtain ⟨before, hbefore⟩ := Url.pushSegment_of_nameless (Url.isSpecial base.scheme) hs
    (pushSegment (Url.isSpecial base.scheme) (Url.dropFinalSlash names) "rules")
  rw [hbefore]
  cases suffix with
  | nil => exact ⟨before ++ [""], .inr ⟨before, rfl⟩, by rw [List.foldl_nil, List.append_nil]⟩
  | cons t suffix =>
    have hnames : ∀ t' ∈ t :: suffix, ¬Nameless (kept t') := fun t' ht' =>
      (hsuffix t' ht').kept.symm ▸ (hsuffix t' ht').named
    rw [Url.foldl_pushSegment hnames (List.cons_ne_nil _ _), map_written_of_words hsuffix]
    refine ⟨trimmed (before ++ [""]), ?_, rfl⟩
    rw [trimmed]
    split
    · exact .inl rfl
    · exact .inr ⟨before, rfl⟩

theorem not_addressed_of_nameless (hbase : base.path = .segments names)
    (h : c.onRule? = some (x, suffix)) (hx : ¬Nameless x.text) (hkept : Nameless (kept x.text))
    (name : String) : ¬Addressed base c name suffix := by
  rintro ⟨request, segment, hrequest, ⟨front', empties, -, -, hurl⟩, hsegment, -, -⟩
  obtain ⟨front, hfront, hextend⟩ := extend_of_nameless hbase (word_of_onRule? h) hkept
  rw [requestFor_of_named h hx] at hrequest
  obtain rfl := Except.ok.inj hrequest
  rw [hextend] at hurl
  have hpath : front ++ suffix = (front' ++ ["rules"] ++ [segment]) ++ suffix := by
    have hsegments := Url.Path.segments.inj (congrArg Url.path hurl)
    simpa using hsegments
  have heq : front = front' ++ ["rules"] ++ [segment] := List.append_cancel_right hpath
  rcases hfront with rfl | ⟨before, rfl⟩
  · simp at heq
  · have hempty : [""] = [segment] := List.append_inj_right' heq rfl
    exact hsegment (List.singleton_inj.mp hempty).symm

/-! ### Two rules -/

theorem withoutCredentials_path (u : Url) (p : Url.Path) :
    { u with path := p }.withoutCredentials = { u.withoutCredentials with path := p } := by
  obtain ⟨scheme, authority?, path, query?, fragment?⟩ := u
  cases authority? with
  | none => rfl
  | some a =>
    simp only [Url.withoutCredentials]
    split <;> rfl

/-- **Two rules share an address** in calls that go on alike if and only if the same name is
left of them. -/
theorem text_eq_iff (hbase : base.path = .segments names) (hsuffix : ∀ s ∈ suffix, Word s)
    {s t : String} (hs : ¬Nameless (kept s)) (ht : ¬Nameless (kept t)) :
    (base.extend ("rules" :: s :: suffix)).withoutCredentials.text =
        (base.extend ("rules" :: t :: suffix)).withoutCredentials.text ↔ kept s = kept t := by
  have hplace {r : String} (hr : ¬Nameless (kept r)) :
      (base.extend ("rules" :: r :: suffix)).withoutCredentials =
        { base.withoutCredentials with
          path := .segments
            ((root names ++ ["rules"]) ++ written (Url.isSpecial base.scheme) r :: suffix) } := by
    rw [extend_of_named hbase hsuffix hr, ← List.append_cons]
    exact withoutCredentials_path base _
  rw [hplace hs, hplace ht]
  generalize base.withoutCredentials = place
  constructor
  · intro h
    have hne : root names ++ ["rules"] ≠ [] := List.append_ne_nil_of_right_ne_nil _ (by simp)
    have hwritten := Url.segment_eq_of_text_eq hne h
    exact Url.kept_eq_of_written_eq hwritten
  · intro h
    have hwritten : written (Url.isSpecial base.scheme) s =
        written (Url.isSpecial base.scheme) t := by
      rw [written, h, written]
    rw [hwritten]

/-! ### The main result -/

/-- **There are places below every address that is accepted.** -/
theorem rooted_of_address {baseUrl : String} (h : address baseUrl = .ok base) : base.Rooted := by
  rw [address] at h
  split at h
  · cases h
  · rename_i url hparse
    split at h
    · rename_i hext
      obtain rfl := Except.ok.inj h
      rw [Url.extensible] at hext
      split at hext
      · rename_i names heq
        have hsegmented := Url.segmented_of_parse hparse
        rw [heq] at hsegmented
        exact ⟨names, heq, hsegmented⟩
      · cases hext
    · cases h

/-- A request is only made for an identifier that names a segment. -/
theorem named_of_requestFor (h : c.onRule? = some (x, suffix))
    (hrequest : requestFor base c = .ok request) : ¬Nameless x.text := by
  intro hx
  exact not_refused hrequest (refused_of_nameless h hx base)

/-- **Where a rule is addressed.** There are places below a URL that is accepted as the address of
a service, and with any URL of which this is so:

* a call on a rule is refused, or its request is addressed to what is left of the
  identifier, exactly if the test is right about the identifier;
* two identifiers that it is right about share an address, in calls that go on alike, exactly
  if the same is left of them;
* it is right about all identifiers without tabs and line breaks, and all of these is left;
* and the request is what is handed to the client, without credentials: the client sends it once,
  or not at all if it cannot be sent. -/
theorem rule_addressed (base : Url) :
    (∀ baseUrl, address baseUrl = .ok base → base.Rooted) ∧
    (base.Rooted →
      (∀ c x suffix, c.onRule? = some (x, suffix) →
        (Refused base c ∨ Addressed base c (kept x.text) suffix ↔ Tested x.text)) ∧
      (∀ c c' x x' suffix request request',
        c.onRule? = some (x, suffix) → c'.onRule? = some (x', suffix) →
        requestFor base c = .ok request → requestFor base c' = .ok request' →
        Tested x.text → Tested x'.text →
        (request.url.withoutCredentials.text = request'.url.withoutCredentials.text ↔
          kept x.text = kept x'.text)) ∧
      (∀ s : String, (∀ d ∈ s.toList, Url.isIgnored d = false) → kept s = s ∧ Tested s) ∧
      (∀ c request, requestFor base c = .ok request →
        ∀ {σ : Type} (net : Network σ) (w : σ),
          (ask net base c w).2 =
            if reachable request.url.withoutCredentials then
              (net.send { request with url := request.url.withoutCredentials } w).2
            else w)) := by
  refine ⟨fun baseUrl hbase => rooted_of_address hbase, ?_⟩
  rintro ⟨names, hnames, -⟩
  refine ⟨?_, ?_, ?_, ?_⟩
  · intro c x suffix h
    constructor
    · intro hmet hkept
      refine Decidable.byContradiction fun hx => ?_
      rcases hmet with hrefused | haddressed
      · exact not_refused (requestFor_of_named h hx base) hrefused
      · exact not_addressed_of_nameless hnames h hx hkept _ haddressed
    · intro htested
      by_cases hx : Nameless x.text
      · exact .inl (refused_of_nameless h hx base)
      · exact .inr (addressed_of_named hnames h hx fun hkept => hx (htested hkept))
  · intro c c' x x' suffix request request' h h' hrequest hrequest' htested htested'
    have hx : ¬Nameless x.text := named_of_requestFor h hrequest
    have hx' : ¬Nameless x'.text := named_of_requestFor h' hrequest'
    rw [requestFor_of_named h hx] at hrequest
    rw [requestFor_of_named h' hx'] at hrequest'
    obtain rfl := Except.ok.inj hrequest
    obtain rfl := Except.ok.inj hrequest'
    exact text_eq_iff hnames (word_of_onRule? h) (fun hkept => hx (htested hkept))
      fun hkept => hx' (htested' hkept)
  · intro s hs
    have hkept : kept s = s := Url.kept_eq hs
    exact ⟨hkept, fun h => hkept ▸ h⟩
  · intro c request hrequest σ net w
    exact ask_of_request hrequest net w

/-- The address of a service. -/
def site : Url := ⟨"http", some ⟨"", none, "rules.test", none⟩, .segments ["api"], none, none⟩

theorem address_site : address "http://rules.test/api" = .ok site :=
  toOption_eq_some_iff.mp (by decide +kernel)

/-- An identifier that looks like a path is addressed as a single segment. -/
theorem rule_addressed_escaped :
    address "http://rules.test/api" = .ok site ∧
      (Refused site (.toggleStatus ⟨"../x y"⟩) ∨
        Addressed site (.toggleStatus ⟨"../x y"⟩) "../x y" ["toggle_status"]) := by
  have hkept : kept "../x y" = "../x y" := by decide
  have htested : Tested "../x y" := by decide
  obtain ⟨hrooted, hplaces⟩ := rule_addressed site
  have haddressed := ((hplaces (hrooted _ address_site)).1 (.toggleStatus ⟨"../x y"⟩)
    ⟨"../x y"⟩ ["toggle_status"] rfl).mpr htested
  rw [hkept] at haddressed
  exact ⟨address_site, haddressed⟩

/-- **Tabs and line breaks are not seen by the test.** A call on the rule `..` with a tab behind
it is neither refused nor addressed, and goes to the path of the service itself; and a tab
inside makes no difference to an address. -/
theorem unaddressed_tab :
    address "http://rules.test/api" = .ok site ∧
    (¬Refused site (.deleteRule ⟨"..\t"⟩) ∧
      ∀ name, ¬Addressed site (.deleteRule ⟨"..\t"⟩) name []) ∧
    ((requestFor site (.deleteRule ⟨"..\t"⟩)).map (·.url.text)).toOption =
      some "http://rules.test/api/" ∧
    (requestFor site (.deleteRule ⟨"ab"⟩)).map (·.url) =
      (requestFor site (.deleteRule ⟨"a\tb"⟩)).map (·.url) := by
  refine ⟨address_site, ⟨?_, ?_⟩, by decide, by rfl⟩
  · exact not_refused (requestFor_of_named rfl (by decide) site)
  · intro name
    exact not_addressed_of_nameless rfl rfl (by decide) (by decide) name

end Http

end Rulebook
