import Rulebook.CommandLine
import Rulebook.Proofs.Result
import Rulebook.Proofs.Settings.Variables

/-!
# Which layer a setting is taken from

For every single setting it is the last layer that counts, of those that say anything about it;
and if none does, it has its standard value, or the name that the site has for it
(`Rulebook.Settings.Leaf.Given`). It does not matter what a layer says about other settings. So
what an earlier layer says about a setting of which a later one speaks can be left out, or added,
and nothing changes.

The condition is that no layer puts something else than a table in the place of a section
(`Rulebook.Settings.Sectioned`). Files whose sections are tables do not, and neither do variables
that name settings (`Rulebook.Settings.HasSections.sectioned`,
`Rulebook.Settings.sectioned_variableLayer`).
-/

namespace Rulebook.Settings

open Entry (saidBy)

/-! ### What layers give a setting -/

/-- The value of a setting where no layer says anything about it. -/
def Leaf.fallback (s : Site) : (x : Leaf) → x.Value
  | serviceName => s.service
  | environment => s.environment
  | x => x.get standard

/-- **What the layers of a site give a setting**: the last thing that is said about it can be read,
and is its value; and if nothing is said, it is what it is without layers. -/
def Leaf.Given (x : Leaf) (s : Site) (layers : List (List (String × Entry))) (v : x.Value) : Prop :=
  match (layers.flatMap (Entry.saidBy x.path)).getLast? with
  | some e => x.read e = .ok v
  | none => v = x.fallback s

instance : (x : Leaf) → DecidableEq x.Value
  | .serviceName | .environment | .baseUrl | .logLevel | .logFormat =>
    inferInstanceAs (DecidableEq String)
  | .timeout | .connectTimeout | .maxRetries | .initialDelay | .maxDelay =>
    inferInstanceAs (DecidableEq Nat)
  | .guarded => inferInstanceAs (DecidableEq Bool)
  | .multiplier => inferInstanceAs (DecidableEq Binary64)

instance (x : Leaf) (s : Site) (ls : List (List (String × Entry))) : DecidablePred (x.Given s ls) :=
  fun v =>
    match h : (ls.flatMap (saidBy x.path)).getLast? with
    | some e => decidable_of_iff (x.read e = .ok v) (by rw [Leaf.Given, h])
    | none => decidable_of_iff (v = x.fallback s) (by rw [Leaf.Given, h])

/-- Only values can be read. -/
theorem Leaf.value?_of_read {x : Leaf} {e : Entry} {v : x.Value} (h : x.read e = .ok v) :
    e.value? = some e := by
  cases e with
  | flag o b => rfl
  | integer o n => rfl
  | float o n => rfl
  | text o s => rfl
  | list o items => cases x <;> cases h
  | table o es => cases x <;> cases h
  | absent => cases x <;> cases h

/-- What a setting comes to depends only on what is seen. -/
theorem Leaf.takes_congr {x : Leaf} {found found' : Option Entry}
    (h : found.map Entry.value? = found'.map Entry.value?) (d v : x.Value) :
    x.Takes found d v ↔ x.Takes found' d v := by
  have hone {found found' : Option Entry} (h : found.map Entry.value? = found'.map Entry.value?)
      (htakes : x.Takes found d v) : x.Takes found' d v := by
    cases found with
    | none =>
      rw [Option.map_eq_none_iff.mp h.symm]
      exact htakes
    | some e =>
      rw [Option.map_some, value?_of_read htakes, eq_comm, Option.map_eq_some_iff] at h
      obtain ⟨e', rfl, he'⟩ := h
      have hvalue : e'.value? = some e' := by
        cases e' <;> first | rfl | cases he'
      rw [hvalue] at he'
      rw [Option.some.inj he']
      exact htakes
  exact ⟨hone h, hone h.symm⟩

/-- What a setting is given depends only on what is said last. -/
theorem Leaf.given_congr {x : Leaf} {s : Site} {ls ls' : List (List (String × Entry))}
    (h : (ls.flatMap (saidBy x.path)).getLast? = (ls'.flatMap (saidBy x.path)).getLast?)
    (v : x.Value) : x.Given s ls v ↔ x.Given s ls' v := by
  rw [Given, Given, h]

/-- A setting is given one value at most. -/
theorem Leaf.given_unique {x : Leaf} {s : Site} {ls : List (List (String × Entry))} {v v' : x.Value}
    (h : x.Given s ls v) (h' : x.Given s ls v') : v = v' := by
  rw [Given] at h h'
  cases hlast : (ls.flatMap (saidBy x.path)).getLast? with
  | none =>
    rw [hlast] at h h'
    exact h.trans h'.symm
  | some e =>
    rw [hlast] at h h'
    exact Except.ok.inj (h.symm.trans h')

/-- The site itself says something about two settings. -/
theorem saidBy_layer (s : Site) (x : Leaf) :
    saidBy x.path s.layer = match x with
      | .serviceName => [.text none s.service]
      | .environment => [.text none s.environment]
      | _ => [] := by
  have hlayer : s.layer = [(Leaf.serviceName.key, .text none s.service),
      (Leaf.environment.key, .text none s.environment)] := rfl
  rw [saidBy, hlayer, List.flatMap_cons, List.flatMap_singleton, Leaf.said_key, Leaf.said_key]
  cases x <;> rfl

theorem sectioned_layer (s : Site) : Sectioned s.layer :=
  sectioned_of_key (List.forall_mem_cons.mpr ⟨⟨.serviceName, rfl⟩,
    List.forall_mem_singleton.mpr ⟨.environment, rfl⟩⟩)

/-! ### Putting settings together -/

/-- **The layers of files and variables**, in their order: the file for everybody, the one for the
environment, the one for the service, and the variables. -/
def sources (s : Site) (files : Files) (vars : Variables) :
    Except Error (List (List (String × Entry))) := do
  let general ← fileLayer files (inDirectory s.directory "default.toml")
  let environmental ← fileLayer files (inDirectory s.directory (s.environment ++ ".toml"))
  let own ← fileLayer files (inDirectory s.directory (s.service ++ ".toml"))
  .ok [general, environmental, own, variableLayer vars]

theorem layers_eq (s : Site) (files : Files) (vars : Variables) :
    layers s files vars = (sources s files vars).map (s.layer :: ·) := by
  have hdefault : "default" ++ ".toml" = "default.toml" := rfl
  rw [layers, sources, Site.paths]
  simp only [List.map_cons, List.map_nil, List.mapM_cons, List.mapM_nil, hdefault]
  -- on both sides, the first file that cannot be read is the error
  cases fileLayer files (inDirectory s.directory "default.toml") with
  | error e => rfl
  | ok general =>
    cases fileLayer files (inDirectory s.directory (s.environment ++ ".toml")) with
    | error e => rfl
    | ok environmental =>
      cases fileLayer files (inDirectory s.directory (s.service ++ ".toml")) with
      | error e => rfl
      | ok own => rfl

/-- **The settings of a site** are what its layers give. -/
theorem gather_eq_ok_iff {s : Site} {files : Files} {vars : Variables}
    {ls : List (List (String × Entry))} (hls : sources s files vars = .ok ls)
    (hsec : ∀ l ∈ ls, Sectioned l) (t : Settings) :
    gather s files vars = .ok t ↔ ∀ x : Leaf, x.Given s ls (x.get t) := by
  have hall : ∀ l ∈ s.layer :: ls, Sectioned l :=
    List.forall_mem_cons.mpr ⟨sectioned_layer s, hsec⟩
  have hempty : Tabular (.table none []) := fun _ _ _ h => absurd h (by simp [Entry.entries])
  have hgather : gather s files vars =
      ofEntry ((s.layer :: ls).foldl Entry.addLayer (.table none [])) := by
    rw [gather, layers_eq, hls]
    rfl
  rw [hgather, ofEntry_eq_ok_iff (tabular_addLayers hall hempty)]
  refine forall_congr' fun x => ?_
  -- what is found was said last, by the layers or by the site
  have hnothing : Entry.seen x.path (some (.table none [])) = none := by
    cases x <;> rfl
  have hfound := Entry.seen_addLayers (fun l hl => (hall l hl).spares x) (.table none [])
  rw [hnothing, Entry.after, Option.or_none] at hfound
  rw [Leaf.takes_congr hfound, List.flatMap_cons, List.getLast?_append, saidBy_layer, Leaf.Given]
  cases (ls.flatMap (saidBy x.path)).getLast? with
  | some e => exact Iff.rfl
  | none =>
    cases x with
    | serviceName => exact ⟨fun h => (Except.ok.inj h).symm, fun h => congrArg Except.ok h.symm⟩
    | environment => exact ⟨fun h => (Except.ok.inj h).symm, fun h => congrArg Except.ok h.symm⟩
    | _ => exact Iff.rfl

section Others

variable {s : Site} {files files' : Files} {vars vars' : Variables}
variable {ls ls' : List (List (String × Entry))}

/-- **A setting takes no notice of others**: where the same is said about it, it is the same. -/
theorem get_eq_of_saidBy_eq (hls : sources s files vars = .ok ls)
    (hls' : sources s files' vars' = .ok ls') (hsec : ∀ l ∈ ls, Sectioned l)
    (hsec' : ∀ l ∈ ls', Sectioned l) {x : Leaf}
    (hx : ls.flatMap (saidBy x.path) = ls'.flatMap (saidBy x.path)) {t t' : Settings}
    (ht : gather s files vars = .ok t) (ht' : gather s files' vars' = .ok t') :
    x.get t = x.get t' := by
  have hgiven := (gather_eq_ok_iff hls hsec t).mp ht x
  have hgiven' := (gather_eq_ok_iff hls' hsec' t').mp ht' x
  exact Leaf.given_unique hgiven ((Leaf.given_congr (by rw [hx]) _).mpr hgiven')

/-- **What an earlier layer says about a setting of which a later one speaks** can be left out, or
added, or changed: the settings remain the same, and it remains possible to read them. -/
theorem gather_congr_of_overridden {before before' later : List (List (String × Entry))}
    (hls : sources s files vars = .ok (before ++ later))
    (hls' : sources s files' vars' = .ok (before' ++ later))
    (hsec : ∀ l ∈ before ++ later, Sectioned l) (hsec' : ∀ l ∈ before' ++ later, Sectioned l)
    {x : Leaf} (hx : later.flatMap (saidBy x.path) ≠ [])
    (hother : ∀ y ≠ x, before.flatMap (saidBy y.path) = before'.flatMap (saidBy y.path))
    (t : Settings) : gather s files vars = .ok t ↔ gather s files' vars' = .ok t := by
  rw [gather_eq_ok_iff hls hsec, gather_eq_ok_iff hls' hsec']
  refine forall_congr' fun y => Leaf.given_congr ?_ (y.get t)
  rw [List.flatMap_append, List.flatMap_append]
  by_cases hy : y = x
  · rw [hy, List.getLast?_append_of_ne_nil _ hx, List.getLast?_append_of_ne_nil _ hx]
  · rw [hother y hy]

end Others

/-! ### The whole way -/

/-- The options of a command line override two settings and no others. -/
theorem get_apply (o : CommandLine.Overrides) (t : Settings) {x : Leaf} (hurl : x ≠ .baseUrl)
    (hlevel : x ≠ .logLevel) : x.get (o.apply t) = x.get t := by
  cases x with
  | baseUrl => exact absurd rfl hurl
  | logLevel => exact absurd rfl hlevel
  | _ => rfl

/-- **Every setting is taken from the last layer that says something about it.** It takes no notice
of what layers say about other settings, nor of what earlier layers say about itself. Files with
tables for the sections are fit for this, and so are variables, which speak of the settings that
their names spell. In the end, the options of the command line replace the address of the service
and the level of the journal, if they are given, and nothing else. -/
theorem setting_of_last_layer {s : Site} {files : Files} {vars : Variables}
    {ls : List (List (String × Entry))} (hls : sources s files vars = .ok ls)
    (hsec : ∀ l ∈ ls, Sectioned l) :
    (∀ t, gather s files vars = .ok t ↔ ∀ x : Leaf, x.Given s ls (x.get t)) ∧
    (∀ files' vars' ls', sources s files' vars' = .ok ls' → (∀ l ∈ ls', Sectioned l) →
      (∀ x : Leaf, ls.flatMap (saidBy x.path) = ls'.flatMap (saidBy x.path) →
        ∀ t t', gather s files vars = .ok t → gather s files' vars' = .ok t' →
          x.get t = x.get t') ∧
      ∀ before before' later, ls = before ++ later → ls' = before' ++ later →
        ∀ x : Leaf, later.flatMap (saidBy x.path) ≠ [] →
          (∀ y ≠ x, before.flatMap (saidBy y.path) = before'.flatMap (saidBy y.path)) →
          ∀ t, gather s files vars = .ok t ↔ gather s files' vars' = .ok t) ∧
    (∀ file, HasSections file → ∀ origin, Sectioned (Entry.ofTomlEntries origin file)) ∧
    (NamesLeaves vars → Sectioned (variableLayer vars) ∧
      ∀ x : Leaf, saidBy x.path (variableLayer vars) =
        (vars.filter fun p => settingOf? p.1 = some x.key).map fun p => Entry.ofVariable p.2) ∧
    (∀ x : Leaf, settingOf? (variableFor x.path) = some x.key) ∧
    ∀ (o : CommandLine.Overrides) (t : Settings),
      (o.apply t).baseUrl = o.baseUrl?.getD t.baseUrl ∧
      (o.apply t).logLevel = o.logLevel?.getD t.logLevel ∧
      ∀ x : Leaf, x ≠ .baseUrl → x ≠ .logLevel → x.get (o.apply t) = x.get t := by
  refine ⟨gather_eq_ok_iff hls hsec, ?_, fun _ => HasSections.sectioned, ?_,
    settingOf?_variableFor, ?_⟩
  · intro files' vars' ls' hls' hsec'
    constructor
    · intro x hx t t' ht ht'
      exact get_eq_of_saidBy_eq hls hls' hsec hsec' hx ht ht'
    · rintro before before' later rfl rfl x hx hother t
      exact gather_congr_of_overridden hls hls' hsec hsec' hx hother t
  · intro hvars
    exact ⟨sectioned_variableLayer hvars, saidBy_variableLayer hvars⟩
  · intro o t
    exact ⟨rfl, rfl, fun x hurl hlevel => get_apply o t hurl hlevel⟩

/-- A service in its staging environment. -/
def stagingSite : Site := ⟨"config", "rule-console", "staging"⟩

/-- Files for everybody, for the staging environment and for the service. -/
def stagingFiles : Files := fun path =>
  [("config/default.toml", "[api]\nbase_url = \"http://default:5001\"\ntimeout_seconds = 5\n"),
    ("config/staging.toml", "[api]\nbase_url = \"http://staging:5001\"\n\n" ++
      "[sync]\nguard_concurrent_mutations = true\n"),
    ("config/rule-console.toml", "[observability]\nlog_format = \"json\"\n")].lookup path

/-- The settings that come of them when a variable gives another timeout. -/
def stagingSettings : Settings :=
  { standard with
    serviceName := "rule-console", environment := "staging", baseUrl := "http://staging:5001"
    timeout := 7, guarded := true, logFormat := "json" }

/-- The address is that of the staging environment, and the timeout that of the variable. -/
theorem gather_staging :
    gather stagingSite stagingFiles [("RULE_CONSOLE__API__TIMEOUT_SECONDS", "7")] =
      .ok stagingSettings := by
  have hlayers : ∃ ls ∈ (sources stagingSite stagingFiles
      [("RULE_CONSOLE__API__TIMEOUT_SECONDS", "7")]).toOption,
      (∀ l ∈ ls, Sectioned l) ∧ ∀ x ∈ Leaf.all, x.Given stagingSite ls (x.get stagingSettings) := by
    decide +kernel
  obtain ⟨ls, hls, hsec, hgiven⟩ := hlayers
  exact ((setting_of_last_layer (toOption_eq_some_iff.mp hls) hsec).1 _).mpr
    fun x => hgiven x x.mem_all

end Rulebook.Settings
