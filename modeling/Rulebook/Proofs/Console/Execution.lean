import Rulebook.Console.Session
import Rulebook.Proofs.Store.Publication
import Rulebook.Proofs.Workbench.Calls

/-!
# What a command does

Sixteen commands do many things, but to the store a command does one of two: it comes to one
request, which is carried out from start to end (`Rulebook.Console.Session.request?`), or it
leaves the store alone. In the same way there is little to say of what is shown: a command
shows nothing, the table, or one message (`Rulebook.Console.Session.shown_execute`).

A session waits for each reply before it goes on, so between two commands its store is *at
rest* (`Rulebook.Store.AtRest`): nothing is under way in it, and what it has published is what
it holds. A request to a store at rest is refused for nothing but its own checks.
-/

namespace Rulebook

open Rule

/-! ### Stores at rest -/

namespace Store

variable {s : Store} {r : Request}

/-- **A store at rest**: what was published is the collection, and no operation is under
way. -/
structure AtRest (s : Store) : Prop where
  snapshot : s.snapshot = s.rules
  free : ∀ g, s.guard? = some g → g = .empty

/-- A new store into which a list of rules was loaded. -/
def loaded (guarded : Bool) (listed : List Rule) : Store :=
  ((empty guarded).finish .load (.ok (.rules listed))).store

theorem AtRest.publish (h : s.AtRest) (rules : List Rule) : (s.publish rules).AtRest :=
  ⟨rfl, h.free⟩

theorem atRest_empty (guarded : Bool) : (empty guarded).AtRest := by
  refine ⟨rfl, fun g hg => ?_⟩
  cases guarded with
  | false => cases hg
  | true => exact (Option.some.inj hg).symm

theorem atRest_loaded (guarded : Bool) (listed : List Rule) : (loaded guarded listed).AtRest := by
  have hback : (empty guarded).abandon .load = empty guarded := abandon_of_untargeted rfl
  have hok : (Except.ok (.rules listed) : Reply).bind Request.load.confirm =
      .ok (.loaded listed) := rfl
  rw [loaded, finish_of_ok hok, hback, apply_of_effect rfl]
  exact (atRest_empty guarded).publish _

/-- **An operation publishes one snapshot or leaves the store as it was.** -/
theorem perform_publishes_or_eq {σ : Type} (svc : Service σ) (s : Store) (r : Request) (w : σ) :
    (∃ rules, (s.perform svc r w).1.store = s.publish rules) ∨
      (s.perform svc r w).1.store = s := by
  rcases s.perform_cases svc r w with ⟨failure, -, hp⟩ | ⟨-, ⟨lapse, -, hp⟩ | ⟨c, -, hp⟩⟩
  · exact Or.inr (by rw [hp])
  · exact Or.inr (by rw [hp])
  · rw [hp]
    cases hc : c.effect s.rules with
    | some rules => exact Or.inl ⟨rules, apply_of_effect hc⟩
    | none => exact Or.inr (apply_of_no_effect hc)

/-- Nothing stands in the way of an operation on a store at rest. -/
theorem AtRest.exists_enrol (h : s.AtRest) (r : Request) : ∃ s', s.enrol r = .ok s' := by
  cases hg : s.guard? with
  | none => exact ⟨s, enrol_of_unguarded hg⟩
  | some g =>
    obtain rfl := h.free g hg
    cases ht : r.target? with
    | none => exact ⟨s, enrol_of_untargeted ht⟩
    | some x =>
      rw [enrol_of_guarded hg ht]
      exact ⟨_, rfl⟩

variable {σ : Type} {svc : Service σ} {w : σ × List Call}

/-- **An operation on a store at rest makes its call** if it passes the checks. -/
theorem AtRest.calls_of_check (h : s.AtRest) (hc : s.check r = .ok ()) :
    (s.perform svc.recorded r w).2.2 = w.2 ++ [r.call] := by
  obtain ⟨s', he⟩ := h.exists_enrol r
  rw [perform, start_of_enrol hc he]
  rfl

/-- An operation that does not pass the checks makes no call. -/
theorem calls_of_check_error {failure : Failure} (hc : s.check r = .error failure) :
    (s.perform svc.recorded r w).2.2 = w.2 := by
  rw [perform, start_of_check_error hc]

end Store

/-- An evaluation asks the service for nothing else. -/
theorem Trial.asks_of_evaluate {σ : Type} (t : Trial) (svc : Service σ) (s : Store)
    (id? : Option RuleId) (text : String) (w : σ) :
    (t.evaluate svc s id? text w).2 = w ∨
      ∃ e, (t.evaluate svc s id? text w).2 = (svc.ask (.evaluateRule e) w).2 := by
  rw [evaluate]
  split
  · exact Or.inl rfl
  · exact Or.inr ⟨_, rfl⟩

namespace Console

variable {σ : Type} {svc : Service σ} {s : Session} {c : Command} {answer : String} {w : σ}

/-! ### The store and the service -/

namespace Session

/-- **The request to the store that a command comes to**, if it comes to one. -/
def request? (s : Session) (answer : String) : Command → Option Request
  | .add text => some (.create text)
  | .save =>
    match s.editor.submission with
    | (_, .error _) => none
    | (_, .ok d) => some (.update d.rule d.text)
  | .toggle x => some (.toggle x)
  | .delete x => if isYes answer then some (.delete x) else none
  | .combine xs => some (.combine xs)
  | .reload => some .load
  | _ => none

/-- **A command that comes to a request carries it out.** -/
theorem execute_of_request {r : Request} (h : s.request? answer c = some r) (svc : Service σ)
    (w : σ) :
    (s.execute svc c answer w).1.session.store = (s.store.perform svc r w).1.store ∧
      (s.execute svc c answer w).2 = (s.store.perform svc r w).2 := by
  cases c with
  | add text =>
    cases h
    exact ⟨rfl, rfl⟩
  -- what is saved is the draft, and the editor has no say in what becomes of the store
  | save =>
    rw [request?] at h
    rw [execute, save, Editor.save]
    rcases hsub : s.editor.submission with ⟨e, failure | d⟩
    · rw [hsub] at h
      cases h
    · rw [hsub] at h
      obtain rfl : _ = r := Option.some.inj h
      exact ⟨Editor.conclude_store _ _ _, rfl⟩
  | toggle x =>
    cases h
    exact ⟨rfl, rfl⟩
  | delete x =>
    rw [request?] at h
    split at h
    · rename_i hyes
      -- the editor and the trial let go of the rule afterwards, if it is gone
      obtain rfl : _ = r := Option.some.inj h
      rw [execute, if_pos hyes, delete]
      dsimp only
      split <;> exact ⟨rfl, rfl⟩
    · cases h
  | combine xs =>
    cases h
    exact ⟨rfl, rfl⟩
  | reload =>
    cases h
    exact ⟨rfl, rfl⟩
  | _ => cases h

/-- **Any other command leaves the store alone**, and asks the service for nothing but an
evaluation. -/
theorem execute_of_no_request (h : s.request? answer c = none) (svc : Service σ) (w : σ) :
    (s.execute svc c answer w).1.session.store = s.store ∧
      ((s.execute svc c answer w).2 = w ∨
        ∃ e, (s.execute svc c answer w).2 = (svc.ask (.evaluateRule e) w).2) := by
  cases c with
  | add text => cases h
  | save =>
    rw [request?] at h
    rw [execute, save, Editor.save]
    rcases hsub : s.editor.submission with ⟨e, failure | d⟩
    · exact ⟨rfl, Or.inl rfl⟩
    · rw [hsub] at h
      cases h
  | toggle x => cases h
  | delete x =>
    rw [request?] at h
    split at h
    · cases h
    · rename_i hno
      rw [execute, if_neg hno]
      exact ⟨rfl, Or.inl rfl⟩
  | combine xs => cases h
  | reload => cases h
  | eval =>
    exact ⟨rfl, s.trial.asks_of_evaluate svc s.store s.trial.selected? s.trial.data w⟩
  | edit x =>
    rw [execute, edit]
    split <;> exact ⟨rfl, Or.inl rfl⟩
  | draft text =>
    rw [execute, write]
    split <;> exact ⟨rfl, Or.inl rfl⟩
  | _ => exact ⟨rfl, Or.inl rfl⟩

/-- **A command publishes one snapshot or leaves the store as it was.** -/
theorem execute_publishes_or_eq (svc : Service σ) (s : Session) (c : Command) (answer : String)
    (w : σ) :
    (∃ r rules, s.request? answer c = some r ∧
        (s.execute svc c answer w).1.session.store = s.store.publish rules) ∨
      (s.execute svc c answer w).1.session.store = s.store := by
  cases hr : s.request? answer c with
  | none => exact Or.inr (execute_of_no_request hr svc w).1
  | some r =>
    rw [(execute_of_request hr svc w).1]
    rcases s.store.perform_publishes_or_eq svc r w with ⟨rules, hp⟩ | hp
    · exact Or.inl ⟨r, rules, rfl, hp⟩
    · exact Or.inr hp

/-- No command knows which snapshots have been shown. -/
theorem seen_execute (svc : Service σ) (s : Session) (c : Command) (answer : String) (w : σ) :
    (s.execute svc c answer w).1.session.seen = s.seen := by
  cases c with
  | delete x =>
    rw [execute]
    split
    · rw [delete]
      dsimp only
      split <;> rfl
    · rfl
  | edit x =>
    rw [execute, edit]
    split <;> rfl
  | draft text =>
    rw [execute, write]
    split <;> rfl
  | _ => rfl

/-! ### What is shown -/

/-- **What a command may show by itself.** -/
inductive Shows (s : Session) : Command → List Shown → Prop
  | nothing {c : Command} (hc : c = .empty ∨ c = .quit) : Shows s c []
  | table : Shows s .list [s.tableNow]
  | message {c : Command} (hc : c ≠ .empty ∧ c ≠ .quit ∧ c ≠ .list) (text : String) :
      Shows s c [.message text]

theorem shown_execute (svc : Service σ) (s : Session) (c : Command) (answer : String) (w : σ) :
    s.Shows c (s.execute svc c answer w).1.shown := by
  cases c with
  | empty => exact .nothing (Or.inl rfl)
  | quit => exact .nothing (Or.inr rfl)
  | list => exact .table
  | delete x =>
    rw [execute]
    split
    · rw [delete]
      dsimp only
      split <;> exact .message (by simp) _
    · exact .message (by simp) _
  | edit x =>
    rw [execute, edit]
    split <;> exact .message (by simp) _
  | draft text =>
    rw [execute, write]
    split <;> exact .message (by simp) _
  | _ => exact .message (by simp) _

/-- No command shows a prompt. -/
theorem Shows.prompt_not_mem {shown : List Shown} (h : s.Shows c shown) : .prompt ∉ shown := by
  cases h with
  | nothing hc => exact List.not_mem_nil
  | table => simp [tableNow]
  | message hc text => simp

/-! ### Turns -/

variable {t : Turn}

/-- A turn in which no command was given shows why, and that is all. -/
theorem turn_of_error {e : CommandError} (h : t.command = .error e) (svc : Service σ)
    (s : Session) (w : σ) :
    s.turn svc t w = (⟨s, [.prompt, .message s!"错误: {e.message}"], []⟩, w) := by
  rw [turn, h]

/-- **Any other turn** asks its question, carries out its command, and shows what was
published. -/
theorem turn_of_ok (h : t.command = .ok c) (svc : Service σ) (s : Session) (w : σ) :
    let e := s.execute svc c t.answer w
    (s.turn svc t w).1.session = (refresh e.1).session ∧
      (s.turn svc t w).1.shown = .prompt :: (questions c ++ (refresh e.1).shown) ∧
      (s.turn svc t w).2 = e.2 := by
  rw [turn, h]
  exact ⟨rfl, rfl, rfl⟩

/-- The store after a turn is the one after its command. -/
theorem store_refresh (e : Executed) : (refresh e).session.store = e.session.store := by
  rw [refresh]
  split <;> rfl

/-- **Every turn leaves the store at rest.** -/
theorem atRest_turn (hs : s.store.AtRest) (svc : Service σ) (t : Turn) (w : σ) :
    (s.turn svc t w).1.session.store.AtRest := by
  cases hc : t.command with
  | error e =>
    rw [turn_of_error hc]
    exact hs
  | ok c =>
    rw [(turn_of_ok hc svc s w).1, store_refresh]
    rcases s.execute_publishes_or_eq svc c t.answer w with ⟨r, rules, -, hstore⟩ | hstore
    · rw [hstore]
      exact hs.publish rules
    · rw [hstore]
      exact hs

theorem runTurns_cons (svc : Service σ) (t : Turn) (ts : List Turn) (s : Session) (w : σ) :
    let r := runTurns svc ts (s.turn svc t w).1.session (s.turn svc t w).2
    (runTurns svc (t :: ts) s w).1.session = r.1.session ∧
      (runTurns svc (t :: ts) s w).1.shown = (s.turn svc t w).1.shown ++ r.1.shown ∧
      (runTurns svc (t :: ts) s w).2 = r.2 :=
  ⟨rfl, rfl, rfl⟩

end Session

end Console

end Rulebook
