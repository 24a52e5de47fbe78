import Mathlib.Data.List.Forall2
import Rulebook.Proofs.Settings.Merge
import Rulebook.Settings.Layers

/-!
# Single settings

The settings are found in tables of fields, some of them in sections. For a proof it is more
convenient to have them all in one list, as `Rulebook.Settings.Leaf`, each with its path, its type
and its place in the settings. No field is left out (`Rulebook.Settings.Leaf.fields_eq`), and a
setting can be changed without the others noticing it (`Rulebook.Settings.Leaf.get_put_of_ne`).

Settings are taken from what layers have put together field by field and section by section. If
only tables stand in the places of the sections (`Rulebook.Settings.Tabular`), that comes to taking
one setting after the other, each from what is found under its path
(`Rulebook.Settings.ofEntry_eq`). So the settings are the values that can be read there, and the
standard ones where nothing is found (`Rulebook.Settings.ofEntry_eq_ok_iff`).
-/

namespace Rulebook.Settings

/-! ### Single settings -/

/-- A single setting. -/
inductive Leaf where
  | serviceName
  | environment
  | baseUrl
  | timeout
  | connectTimeout
  | guarded
  | maxRetries
  | initialDelay
  | maxDelay
  | multiplier
  | logLevel
  | logFormat
  deriving DecidableEq

namespace Leaf

/-- The names that lead to a setting: that of its section, if it belongs to one, and its own. -/
def path : Leaf → List String
  | serviceName => ["service_name"]
  | environment => ["environment"]
  | baseUrl => ["api", "base_url"]
  | timeout => ["api", "timeout_seconds"]
  | connectTimeout => ["api", "connect_timeout_seconds"]
  | guarded => ["sync", "guard_concurrent_mutations"]
  | maxRetries => ["retry", "max_retries"]
  | initialDelay => ["retry", "initial_delay_ms"]
  | maxDelay => ["retry", "max_delay_ms"]
  | multiplier => ["retry", "multiplier"]
  | logLevel => ["observability", "log_level"]
  | logFormat => ["observability", "log_format"]

/-- The path of a setting as a single name. -/
def key (x : Leaf) : String := ".".intercalate x.path

/-- The values of a setting. -/
def Value : Leaf → Type
  | serviceName | environment | baseUrl | logLevel | logFormat => String
  | timeout | connectTimeout | maxRetries | initialDelay | maxDelay => Nat
  | guarded => Bool
  | multiplier => Binary64

/-- An entry as a value of a setting. -/
def read : (x : Leaf) → Entry → Except Mismatch x.Value
  | serviceName | environment | baseUrl | logLevel | logFormat => Entry.text?
  | timeout | connectTimeout | initialDelay | maxDelay => Entry.natural?
  | maxRetries => Entry.natural32?
  | guarded => Entry.flag?
  | multiplier => Entry.double?

/-- The value of a setting. -/
def get : (x : Leaf) → Settings → x.Value
  | serviceName, s => s.serviceName
  | environment, s => s.environment
  | baseUrl, s => s.baseUrl
  | timeout, s => s.timeout
  | connectTimeout, s => s.connectTimeout
  | guarded, s => s.guarded
  | maxRetries, s => s.retry.maxRetries
  | initialDelay, s => s.retry.initialDelay
  | maxDelay, s => s.retry.maxDelay
  | multiplier, s => s.retry.multiplier
  | logLevel, s => s.logLevel
  | logFormat, s => s.logFormat

/-- The settings with another value for one of them. -/
def put : (x : Leaf) → Settings → x.Value → Settings
  | serviceName, s, v => { s with serviceName := v }
  | environment, s, v => { s with environment := v }
  | baseUrl, s, v => { s with baseUrl := v }
  | timeout, s, v => { s with timeout := v }
  | connectTimeout, s, v => { s with connectTimeout := v }
  | guarded, s, v => { s with guarded := v }
  | maxRetries, s, v => { s with retry.maxRetries := v }
  | initialDelay, s, v => { s with retry.initialDelay := v }
  | maxDelay, s, v => { s with retry.maxDelay := v }
  | multiplier, s, v => { s with retry.multiplier := v }
  | logLevel, s, v => { s with logLevel := v }
  | logFormat, s, v => { s with logFormat := v }

/-- The field of a setting. -/
def field (x : Leaf) : Field := Settings.field (x.path.getLastD "") x.read x.put

/-- The settings that belong to the whole. -/
def roots : List Leaf := [serviceName, environment]

/-- The settings of the sections. -/
def inSections : List (List Leaf) :=
  [[baseUrl, timeout, connectTimeout], [guarded], [maxRetries, initialDelay, maxDelay, multiplier],
    [logLevel, logFormat]]

/-- All settings, in the order in which they are taken. -/
def all : List Leaf := roots ++ inSections.flatten

/-- **No setting is left out.** -/
theorem fields_eq :
    rootFields = roots.map field ∧ sections.map (·.fields) = inSections.map (·.map field) :=
  ⟨rfl, rfl⟩

theorem get_put_self (x : Leaf) (s : Settings) (v : x.Value) : x.get (x.put s v) = v := by
  cases x <;> rfl

theorem get_put_of_ne {x y : Leaf} (h : y ≠ x) (s : Settings) (v : x.Value) :
    y.get (x.put s v) = y.get s := by
  cases x <;> cases y <;> first | rfl | exact absurd rfl h

/-- **Settings are the values of all settings.** -/
theorem eq_of_get_eq {s t : Settings} (h : ∀ x : Leaf, x.get s = x.get t) : s = t := by
  obtain ⟨_, _, _, _, _, _, ⟨_, _, _, _⟩, _, _⟩ := s
  obtain ⟨_, _, _, _, _, _, ⟨_, _, _, _⟩, _, _⟩ := t
  have h1 := h serviceName
  have h2 := h environment
  have h3 := h baseUrl
  have h4 := h timeout
  have h5 := h connectTimeout
  have h6 := h guarded
  have h7 := h maxRetries
  have h8 := h initialDelay
  have h9 := h maxDelay
  have h10 := h multiplier
  have h11 := h logLevel
  have h12 := h logFormat
  simp only [get] at *
  subst_vars
  rfl

theorem mem_all (x : Leaf) : x ∈ all := by cases x <;> decide

theorem nodup_all : all.Nodup := by decide

/-! ### Taking settings from what was put together -/

/-- Takes a setting from what was found under its path, if there was something. -/
def take (x : Leaf) (found : Option Entry) (s : Settings) : Except Error Settings :=
  match found with
  | some e => x.field.takeAt x.key e s
  | none => .ok s

theorem take_some_of_error {x : Leaf} {e : Entry} {m : Mismatch} (h : x.read e = .error m)
    (s : Settings) : x.take (some e) s = .error (.wrongType x.key m) := by
  change ((x.read e).map (x.put s)).mapError (Error.wrongType x.key) = _
  rw [h]
  rfl

theorem take_some_of_ok {x : Leaf} {e : Entry} {v : x.Value} (h : x.read e = .ok v)
    (s : Settings) : x.take (some e) s = .ok (x.put s v) := by
  change ((x.read e).map (x.put s)).mapError (Error.wrongType x.key) = _
  rw [h]
  rfl

/-- **What a setting comes to**: what was found can be read and is its value, or nothing was found
and it is as before. -/
def Takes (x : Leaf) (found : Option Entry) (before v : x.Value) : Prop :=
  match found with
  | some e => x.read e = .ok v
  | none => v = before

/-- **Taking a setting**: what was found cannot be read, or the setting comes to what it then is,
and the others are as before. -/
theorem take_cases (x : Leaf) (found : Option Entry) (s : Settings) :
    (∃ e, x.take found s = .error e ∧ ∀ v, ¬ x.Takes found (x.get s) v) ∨
      ∃ s', x.take found s = .ok s' ∧ (∀ v, x.Takes found (x.get s) v ↔ v = x.get s') ∧
        ∀ y ≠ x, y.get s' = y.get s := by
  cases found with
  | none => exact .inr ⟨s, rfl, fun _ => Iff.rfl, fun _ _ => rfl⟩
  | some e =>
    cases hread : x.read e with
    | error m =>
      refine .inl ⟨_, take_some_of_error hread s, fun v htakes => ?_⟩
      exact absurd (hread.symm.trans htakes) (by simp)
    | ok v =>
      refine .inr ⟨_, take_some_of_ok hread s, fun v' => ?_, fun y hy => get_put_of_ne hy s v⟩
      rw [get_put_self]
      constructor
      · intro htakes
        exact Except.ok.inj ((show x.read e = .ok v' from htakes).symm.trans hread)
      · rintro rfl
        exact hread

/-- **What settings come to** when some of them are taken: these are what they come to, and the
others are as before. -/
def TakesAll (found : Leaf → Option Entry) (xs : List Leaf) (s t : Settings) : Prop :=
  (∀ x ∈ xs, x.Takes (found x) (x.get s) (x.get t)) ∧ ∀ x ∉ xs, x.get t = x.get s

/-- Whatever becomes of the first setting, the others take no notice of it. -/
theorem takesAll_cons_iff {found : Leaf → Option Entry} {x : Leaf} {xs : List Leaf} (hx : x ∉ xs)
    {s s' t : Settings} (hself : ∀ v, x.Takes (found x) (x.get s) v ↔ v = x.get s')
    (hother : ∀ y ≠ x, y.get s' = y.get s) :
    TakesAll found xs s' t ↔ TakesAll found (x :: xs) s t := by
  constructor
  · rintro ⟨hin, hout⟩
    refine ⟨List.forall_mem_cons.mpr ⟨(hself _).mpr (hout x hx), fun y hy => ?_⟩, fun y hy => ?_⟩
    · rw [← hother y (ne_of_mem_of_not_mem hy hx)]
      exact hin y hy
    · rw [List.mem_cons, not_or] at hy
      exact (hout y hy.2).trans (hother y hy.1)
  · rintro ⟨hin, hout⟩
    obtain ⟨hxt, hin⟩ := List.forall_mem_cons.mp hin
    refine ⟨fun y hy => ?_, fun y hy => ?_⟩
    · rw [hother y (ne_of_mem_of_not_mem hy hx)]
      exact hin y hy
    · by_cases hyx : y = x
      · rw [hyx]
        exact (hself _).mp hxt
      · rw [hother y hyx]
        exact hout y (List.not_mem_cons_of_ne_of_not_mem hyx hy)

/-- **Taking settings one after the other**, each from what was found for it. -/
theorem foldlM_take_eq_ok_iff (found : Leaf → Option Entry) {xs : List Leaf} (hxs : xs.Nodup)
    (s t : Settings) :
    xs.foldlM (fun s x => x.take (found x) s) s = .ok t ↔ TakesAll found xs s t := by
  induction xs generalizing s with
  | nil =>
    have hok : [].foldlM (fun s (x : Leaf) => x.take (found x) s) s = .ok s := rfl
    rw [hok]
    constructor
    · intro h
      rw [Except.ok.inj h]
      exact ⟨nofun, fun x _ => rfl⟩
    · rintro ⟨-, h⟩
      exact congrArg Except.ok (eq_of_get_eq fun x => (h x List.not_mem_nil).symm)
  | cons x xs ih =>
    obtain ⟨hx, hxs⟩ := List.nodup_cons.mp hxs
    rw [List.foldlM_cons]
    rcases x.take_cases (found x) s with ⟨e, htake, hno⟩ | ⟨s', htake, hself, hother⟩
    · rw [htake]
      exact iff_of_false (by rintro ⟨⟩) fun h => hno _ (h.1 x List.mem_cons_self)
    · rw [htake]
      exact (ih hxs s').trans (takesAll_cons_iff hx hself hother)

/-- Where the fields of a table are settings, they are taken from what is found in it. -/
theorem takeFields_eq {above : String} {es : List (String × Entry)} {whole : Entry}
    {xs : List Leaf} (h : ∀ x ∈ xs, above ++ x.field.name = x.key ∧
      es.lookup x.field.name = Entry.under x.path (some whole)) (s : Settings) :
    takeFields above (xs.map field) es s =
      xs.foldlM (fun s x => x.take (Entry.under x.path (some whole)) s) s := by
  induction xs generalizing s with
  | nil => rfl
  | cons x xs ih =>
    obtain ⟨⟨hkey, hunder⟩, hxs⟩ := List.forall_mem_cons.mp h
    rw [takeFields, List.map_cons, List.foldlM_cons, List.foldlM_cons, hunder, hkey]
    exact congrArg (x.take (Entry.under x.path (some whole)) s >>= ·) (funext (ih hxs))

end Leaf

/-- **An entry with tables in the places of the sections.** -/
def Tabular (whole : Entry) : Prop :=
  ∀ sec ∈ sections, ∀ e, whole.entries.lookup sec.name = some e → ∃ o es, e = .table o es

/-- Where nothing is found, nothing is taken. -/
theorem foldlM_take_none {found : Leaf → Option Entry} {xs : List Leaf}
    (h : ∀ x ∈ xs, found x = none) (s : Settings) :
    xs.foldlM (fun s x => x.take (found x) s) s = .ok s := by
  induction xs with
  | nil => rfl
  | cons x xs ih =>
    obtain ⟨hx, hxs⟩ := List.forall_mem_cons.mp h
    rw [List.foldlM_cons, hx]
    exact ih hxs

/-- **A section** takes its settings from what is found under their paths. -/
theorem take_section_eq {whole : Entry} (hwhole : Tabular whole) {sec : Section} {xs : List Leaf}
    (hsec : sec ∈ sections) (hfields : sec.fields = xs.map Leaf.field)
    (hpath : ∀ x ∈ xs, x.path = [sec.name, x.field.name]) (s : Settings) :
    (match whole.entries.lookup sec.name with
      | some e => sec.take e s
      | none => .ok s) =
      xs.foldlM (fun s x => x.take (Entry.under x.path (some whole)) s) s := by
  cases he : whole.entries.lookup sec.name with
  | none =>
    refine (foldlM_take_none (fun x hx => ?_) s).symm
    rw [hpath x hx]
    change Entry.under _ (whole.entries.lookup sec.name) = none
    rw [he]
    rfl
  | some e =>
    obtain ⟨o, es, rfl⟩ := hwhole sec hsec e he
    change takeFields (sec.name ++ ".") sec.fields es s = _
    rw [hfields]
    refine Leaf.takeFields_eq (fun x hx => ⟨?_, ?_⟩) s
    · rw [Leaf.key, hpath x hx]
      rfl
    · rw [hpath x hx]
      change _ = Entry.under _ (whole.entries.lookup sec.name)
      rw [he]
      rfl

theorem foldlM_sections_eq {whole : Entry} (hwhole : Tabular whole) {secs : List Section}
    {xss : List (List Leaf)}
    (h : List.Forall₂ (fun sec xs => sec ∈ sections ∧ sec.fields = xs.map Leaf.field ∧
      ∀ x ∈ xs, x.path = [sec.name, x.field.name]) secs xss) (s : Settings) :
    secs.foldlM (fun s sec =>
      match whole.entries.lookup sec.name with
      | some e => sec.take e s
      | none => .ok s) s =
      xss.flatten.foldlM (fun s x => x.take (Entry.under x.path (some whole)) s) s := by
  induction h generalizing s with
  | nil => rfl
  | @cons sec xs secs xss hsec _ ih =>
    obtain ⟨hmem, hfields, hpath⟩ := hsec
    rw [List.foldlM_cons, List.flatten_cons, List.foldlM_append,
      ← take_section_eq hwhole hmem hfields hpath s]
    exact congrArg (_ >>= ·) (funext ih)

/-- **The settings in an entry** are taken from what is found under their paths. -/
theorem ofEntry_eq {whole : Entry} (hwhole : Tabular whole) :
    ofEntry whole =
      Leaf.all.foldlM (fun s x => x.take (Entry.under x.path (some whole)) s) standard := by
  have hroots (s : Settings) : takeFields "" rootFields whole.entries s =
      Leaf.roots.foldlM (fun s x => x.take (Entry.under x.path (some whole)) s) s := by
    rw [Leaf.fields_eq.1]
    refine Leaf.takeFields_eq (List.forall_mem_cons.mpr ⟨⟨rfl, rfl⟩, ?_⟩) s
    exact List.forall_mem_singleton.mpr ⟨rfl, rfl⟩
  have hsections : List.Forall₂ (fun sec xs => sec ∈ sections ∧ sec.fields = xs.map Leaf.field ∧
      ∀ x ∈ xs, x.path = [sec.name, x.field.name]) sections Leaf.inSections :=
    .cons ⟨by simp [sections], rfl, by decide⟩ (.cons ⟨by simp [sections], rfl, by decide⟩
      (.cons ⟨by simp [sections], rfl, by decide⟩
        (.cons ⟨by simp [sections], rfl, by decide⟩ .nil)))
  rw [ofEntry, hroots, Leaf.all, List.foldlM_append]
  exact congrArg (_ >>= ·) (funext (foldlM_sections_eq hwhole hsections))

/-- **The settings in an entry** are the values that can be read under their paths. -/
theorem ofEntry_eq_ok_iff {whole : Entry} (hwhole : Tabular whole) {t : Settings} :
    ofEntry whole = .ok t ↔
      ∀ x : Leaf, x.Takes (Entry.under x.path (some whole)) (x.get standard) (x.get t) := by
  rw [ofEntry_eq hwhole, Leaf.foldlM_take_eq_ok_iff _ Leaf.nodup_all]
  exact ⟨fun h x => h.1 x x.mem_all, fun h => ⟨fun x _ => h x, fun x hx => absurd x.mem_all hx⟩⟩

end Rulebook.Settings
