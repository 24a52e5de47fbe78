import Rulebook.Proofs.Store.Frame

/-!
# What is published

A store keeps its collection twice: the rules it works on, and the snapshot that it has
published last and that others see. It is left to each change of the collection to say
whether there is something to publish, and if one of them said so at the wrong time the
two would drift apart, or a subscriber would go on with an old copy.

Here it is shown that they never do. An answer is *news* (`Rulebook.Heard.News`) when it
brings in a list or a new rule, or is about a rule that is still there; a turn publishes
exactly one snapshot if it brings in news, and otherwise leaves everything that the store
shows alone (`Rulebook.Desk.turn_publishes_or_alike`). Whether the collection is any
different afterwards does not matter.

A subscriber (`Rulebook.Subscriber`) sees nothing of this but a number, and takes a new
copy when that number has changed since the last look. Since the number never goes back,
an unchanged number means that nothing was published in between, and then the old copy is
still right.
-/

namespace Rulebook

open Rule

/-! ### News -/

/-- **Whether an answer is news** for a collection: a list and a new rule always are, and
what was done to a rule is if the rule is still there. -/
def Heard.News (rules : List Rule) : Heard → Prop
  | ⟨.load, .rules _⟩ => True
  | ⟨.create _, .rule _⟩ => True
  | ⟨.delete x, .done⟩ => x ∈ ids rules
  | ⟨.toggle x, .status _⟩ => x ∈ ids rules
  | ⟨.update x _, .done⟩ => x ∈ ids rules
  | _ => False

/-- News is what has an effect on the collection. -/
theorem Heard.news_iff {rules : List Rule} (e : Heard) :
    e.News rules ↔ ∃ c, e.confirmed? = some c ∧ (c.effect rules).isSome := by
  have hlisted : ∀ {x : RuleId} {changed : List Rule},
      x ∈ ids rules ↔ (if listed x rules = true then some changed else none).isSome := by
    intro x changed
    rw [← listed_iff]
    by_cases h : listed x rules = true
    · rw [if_pos h, h]
      rfl
    · rw [if_neg h]
      exact iff_of_false h Bool.false_ne_true
  -- the answer confirms `c`, and whether that has an effect is the same question
  have hconfirmed : ∀ {e : Heard} {c : Confirmed} {P : Prop}, e.confirmed? = some c →
      (P ↔ (c.effect rules).isSome) →
      (P ↔ ∃ c, e.confirmed? = some c ∧ (c.effect rules).isSome) := by
    intro e c P hc hP
    rw [hP, hc]
    exact ⟨fun h => ⟨c, rfl, h⟩, fun ⟨c', hc', h⟩ => Option.some.inj hc' ▸ h⟩
  -- an answer of the wrong kind confirms nothing
  have hwrong : ∀ {e : Heard}, e.confirmed? = none →
      (False ↔ ∃ c, e.confirmed? = some c ∧ (c.effect rules).isSome) := by
    intro e he
    rw [he]
    exact iff_of_false id fun ⟨c, hc, _⟩ => Option.some_ne_none c hc.symm
  obtain ⟨r, a⟩ := e
  cases r with
  | load =>
    cases a with
    | rules listed => exact hconfirmed rfl (iff_of_true trivial rfl)
    | _ => exact hwrong rfl
  | create text =>
    cases a with
    | rule q => exact hconfirmed rfl (iff_of_true trivial rfl)
    | _ => exact hwrong rfl
  | delete x =>
    cases a with
    | done => exact hconfirmed rfl hlisted
    | _ => exact hwrong rfl
  | toggle x =>
    cases a with
    | status enabled => exact hconfirmed rfl hlisted
    | _ => exact hwrong rfl
  | update x text =>
    cases a with
    | done => exact hconfirmed rfl hlisted
    | _ => exact hwrong rfl
  | combine xs =>
    cases a with
    | value tree => exact hconfirmed rfl (iff_of_false id Bool.false_ne_true)
    | _ => exact hwrong rfl

/-! ### Publishing -/

namespace Store

variable {s : Store} {c : Confirmed} {rules : List Rule}

theorem apply_of_effect (h : c.effect s.rules = some rules) : s.apply c = s.publish rules := by
  rw [apply, h]

theorem apply_of_no_effect (h : c.effect s.rules = none) : s.apply c = s := by
  rw [apply, h]

/-- Combining rules changes nothing, whatever the reply is. -/
theorem finish_combine (s : Store) (xs : List RuleId) (reply : Reply) :
    (s.finish (.combine xs) reply).store = s := by
  have hback : s.abandon (.combine xs) = s := abandon_of_untargeted rfl
  cases hr : reply.bind (Request.combine xs).confirm with
  | error lapse => rw [finish_of_error hr, hback]
  | ok c =>
    rw [finish_of_ok hr, hback]
    refine apply_of_no_effect ?_
    -- all that a combination can confirm is the combination
    rcases reply with lapse | answer
    · cases hr
    · cases answer <;> cases hr
      rfl

end Store

namespace Desk

variable {d : Desk} {t : Turn} {T : Turned}

/-- **A turn publishes one snapshot or leaves what the store shows alone**, depending on
whether what it confirms has an effect. -/
theorem Goes.publishes_or_alike (h : d.Goes t T) :
    ((∃ c, T.upshot.confirmed? = some c ∧ (c.effect d.store.rules).isSome) ∧
        T.desk.store.published = d.store.published + 1 ∧
        T.desk.store.snapshot = T.desk.store.rules) ∨
      (¬(∃ c, T.upshot.confirmed? = some c ∧ (c.effect d.store.rules).isSome) ∧
        d.store.Alike T.desk.store) := by
  have hno : ∀ {u : Upshot}, u.confirmed? = none →
      ¬∃ c, u.confirmed? = some c ∧ (c.effect d.store.rules).isSome := by
    rintro u hu ⟨c, hc, -⟩
    rw [hu] at hc
    cases hc
  cases h with
  | refused hs => exact Or.inr ⟨hno rfl, .refl _⟩
  | asked hc he => exact Or.inr ⟨hno rfl, Store.alike_of_enrol he⟩
  | failed hw hr => exact Or.inr ⟨hno rfl, Store.alike_abandon _ _⟩
  | dropped hw => exact Or.inr ⟨hno rfl, Store.alike_abandon _ _⟩
  | idle => exact Or.inr ⟨hno rfl, .refl _⟩
  | @confirmed _ _ r _ c hw hr =>
    -- the entry is taken out first, which the rules do not feel
    have hrules : (d.store.abandon r).rules = d.store.rules := Store.abandon_rules _ _
    cases hc : c.effect d.store.rules with
    | some rules =>
      refine Or.inl ⟨⟨c, rfl, by rw [hc]; rfl⟩, ?_⟩
      rw [Store.apply_of_effect (hrules ▸ hc)]
      exact ⟨congrArg (· + 1) (Store.alike_abandon d.store r).published, rfl⟩
    | none =>
      refine Or.inr ⟨?_, ?_⟩
      · rintro ⟨c', hc', heffect⟩
        obtain rfl : c = c' := Option.some.inj hc'
        rw [hc] at heffect
        cases heffect
      · rw [Store.apply_of_no_effect (hrules ▸ hc)]
        exact Store.alike_abandon _ _

/-- **A turn publishes one snapshot if it brings in news**, and otherwise leaves what the
store shows alone. -/
theorem turn_publishes_or_alike (d : Desk) (t : Turn) :
    ((∃ e, d.heard? t = some e ∧ e.News d.store.rules) ∧
        (d.turn t).desk.store.published = d.store.published + 1 ∧
        (d.turn t).desk.store.snapshot = (d.turn t).desk.store.rules) ∨
      (¬(∃ e, d.heard? t = some e ∧ e.News d.store.rules) ∧
        d.store.Alike (d.turn t).desk.store) := by
  have hnews : (∃ e, d.heard? t = some e ∧ e.News d.store.rules) ↔
      ∃ c, (d.turn t).upshot.confirmed? = some c ∧ (c.effect d.store.rules).isSome := by
    rw [confirmed?_turn]
    cases d.heard? t with
    | none =>
      constructor
      · rintro ⟨e, he, -⟩
        cases he
      · rintro ⟨c, hc, -⟩
        cases hc
    | some e =>
      rw [Option.bind_some, ← Heard.news_iff]
      exact ⟨fun ⟨e', he', h⟩ => Option.some.inj he' ▸ h, fun h => ⟨e, rfl, h⟩⟩
  rw [hnews]
  exact (d.goes_turn t).publishes_or_alike

/-- **The snapshot is the collection**, in every state of a store. -/
theorem snapshot_after (guarded : Bool) (turns : List Turn) :
    ((empty guarded).after turns).store.snapshot = ((empty guarded).after turns).store.rules := by
  refine after_induction (P := fun d => d.store.snapshot = d.store.rules) rfl ?_ turns
  intro d t T h hd
  rcases h.publishes_or_alike with ⟨-, -, hT⟩ | ⟨-, hT⟩
  · exact hT
  · rw [hT.snapshot, hT.rules]
    exact hd

/-- The number of snapshots never goes back. -/
theorem published_le_after (d : Desk) (turns : List Turn) :
    d.store.published ≤ (d.after turns).store.published := by
  induction turns generalizing d with
  | nil => exact Nat.le_refl _
  | cons t turns ih =>
    have hrest := ih (d.turn t).desk
    rcases d.turn_publishes_or_alike t with ⟨-, hT, -⟩ | ⟨-, hT⟩
    · rw [after]
      omega
    · rw [hT.published] at hrest
      exact hrest

/-- **Where nothing was published the collection is the same.** -/
theorem rules_eq_of_published_eq {turns : List Turn}
    (h : (d.after turns).store.published = d.store.published) :
    (d.after turns).store.rules = d.store.rules := by
  induction turns generalizing d with
  | nil => rfl
  | cons t turns ih =>
    have hrest := published_le_after (d.turn t).desk turns
    rw [after] at h ⊢
    rcases d.turn_publishes_or_alike t with ⟨-, hT, -⟩ | ⟨-, hT⟩
    · -- what was published would show in the number
      omega
    · rw [ih (by rw [h, hT.published]), hT.rules]

end Desk

/-! ### Subscribers -/

/-- Someone who looks now and then whether something was published: the number of
snapshots at the last look, and the copy that was taken then. -/
structure Subscriber where
  seen : Nat
  copy : List Rule

/-- A subscriber who has just come. -/
def Store.subscribe (s : Store) : Subscriber := ⟨s.published, s.snapshot⟩

namespace Subscriber

/-- A look: a new copy is taken if something was published since the last one. -/
def look (v : Subscriber) (s : Store) : Subscriber :=
  if s.published ≠ v.seen then ⟨s.published, s.snapshot⟩ else v

/-- A subscriber after a history that is watched: after each stretch of it there is a
look. -/
def follow (v : Subscriber) (d : Desk) : List (List Turn) → Subscriber
  | [] => v
  | stretch :: rest =>
    (v.look (d.after stretch).store).follow (d.after stretch) rest

/-- What a subscriber knows right after a look. -/
structure Abreast (v : Subscriber) (s : Store) : Prop where
  seen : v.seen = s.published
  copy : v.copy = s.rules

variable {v : Subscriber} {d : Desk} {stretch : List Turn}

/-- **One look is enough** to be abreast again, whatever happened since the last one. -/
theorem Abreast.look (h : v.Abreast d.store)
    (hs : (d.after stretch).store.snapshot = (d.after stretch).store.rules) :
    (v.look (d.after stretch).store).Abreast (d.after stretch).store := by
  rw [Subscriber.look]
  -- where the number is the same nothing was published, so the old copy is still right
  by_cases hp : (d.after stretch).store.published = v.seen
  · rw [if_neg (not_not_intro hp)]
    refine ⟨hp.symm, ?_⟩
    rw [Desk.rules_eq_of_published_eq (hp.trans h.seen)]
    exact h.copy
  · rw [if_pos hp]
    exact ⟨rfl, hs⟩

end Subscriber

namespace Desk

/-- A subscriber who was abreast at some time is so after every look. -/
theorem abreast_follow (guarded : Bool) (history : List Turn) {v : Subscriber}
    (hv : v.Abreast ((empty guarded).after history).store) (stretches : List (List Turn)) :
    (v.follow ((empty guarded).after history) stretches).Abreast
      (((empty guarded).after history).after stretches.flatten).store := by
  induction stretches generalizing history v with
  | nil => exact hv
  | cons stretch stretches ih =>
    have hlook : (v.look ((empty guarded).after (history ++ stretch)).store).Abreast
        ((empty guarded).after (history ++ stretch)).store := by
      have hs := snapshot_after guarded (history ++ stretch)
      rw [after_append] at hs ⊢
      exact hv.look hs
    rw [Subscriber.follow, List.flatten_cons, after_append, ← after_append _ history]
    exact ih (history ++ stretch) hlook

/-- **Snapshots are exact and complete.** In every state of a store, guarded or not:

* the snapshot is the collection;
* a turn publishes one snapshot if it brings in news; if it does not, it publishes none and
  leaves the collection as it is;
* combining rules leaves the whole store as it is, from its start to its end;
* whoever subscribes now has, after each look, the collection as it is then. -/
theorem snapshots_exact_after (guarded : Bool) (history : List Turn) :
    let d := (empty guarded).after history
    d.store.snapshot = d.store.rules ∧
    (∀ t, let s := (d.turn t).desk.store
      ((∃ e, d.heard? t = some e ∧ e.News d.store.rules) ∧
          s.published = d.store.published + 1) ∨
        (¬(∃ e, d.heard? t = some e ∧ e.News d.store.rules) ∧
          s.published = d.store.published ∧ s.rules = d.store.rules)) ∧
    (∀ xs, (d.turn (.start (.combine xs))).desk.store = d.store ∧
      ∀ place, d.waiting[place]? = some (.combine xs) →
        (∀ reply, (d.turn (.finish place reply)).desk.store = d.store) ∧
        (d.turn (.abandon place)).desk.store = d.store) ∧
    ∀ stretches, (d.store.subscribe.follow d stretches).copy =
      (d.after stretches.flatten).store.rules := by
  intro d
  have hsnapshot : d.store.snapshot = d.store.rules := snapshot_after guarded history
  refine ⟨hsnapshot, fun t => ?_, fun xs => ⟨(start_untargeted rfl).1, fun place hp => ?_⟩,
    fun stretches => ?_⟩
  · rcases d.turn_publishes_or_alike t with ⟨hnews, hT, -⟩ | ⟨hno, hT⟩
    · exact Or.inl ⟨hnews, hT⟩
    · exact Or.inr ⟨hno, hT.published, hT.rules⟩
  · obtain ⟨before, after, hw, rfl⟩ := exists_split_of_getElem? hp
    constructor
    · intro reply
      rw [turn_finish hw]
      exact Store.finish_combine _ xs reply
    · rw [turn_abandon hw]
      exact Store.abandon_of_untargeted rfl
  · exact (abreast_follow guarded history ⟨rfl, hsnapshot⟩ stretches).copy

end Desk

end Rulebook
