import Tabletop.Evaluation.Call
import Tabletop.Proofs.Evaluation.Unwinding
import Tabletop.Proofs.Results

namespace Tabletop

variable {α β : Type} {mid good : α → Prop}

def Inquiry.Yields (good : α → Prop) : Inquiry (Except RuleError α) → Prop
  | .done r => ∀ a, r = .ok a → good a
  | .ask _ next => ∀ r, (next r).Yields good

lemma Inquiry.Yields.ends {c : Context} {out : Activity → Dice.Plan Outcome}
    {x : Inquiry (Except RuleError α)} (hx : x.Yields good) {a : α}
    (h : (x.follow c out).Ends (.ok a)) : good a := by
  induction x with
  | done r => exact hx a (Dice.Plan.ends_done.1 h).symm
  | ask q next ih =>
    cases hq : c.reply q with
    | now p =>
      rw [follow_now hq, Dice.Plan.ends_bind] at h
      obtain ⟨r, _, h⟩ := h
      exact ih r (hx r) h
    | enter b pass =>
      rw [follow_enter hq, Dice.Plan.ends_bind] at h
      obtain ⟨r, _, h⟩ := h
      exact ih (pass r) (hx (pass r)) h

namespace Evaluation

def Yields (good : α → Prop) (x : Evaluation α) : Prop := x.run.Yields good

lemma yields_pure {a : α} (h : good a) : Yields good (pure a) := by
  intro b hb
  cases hb
  exact h

lemma yields_throw (e : RuleError) : Yields good (throw e) := by
  intro b hb
  cases hb

lemma yields_lift {r : Except RuleError α} (h : ∀ a, r = .ok a → good a) :
    Yields good (liftM r : Evaluation α) := by
  cases r with
  | error e => exact yields_throw e
  | ok a => exact yields_pure (h a rfl)

lemma yields_any (x : Evaluation α) : Yields (fun _ => True) x := by
  unfold Yields
  induction x.run with
  | done r => exact fun _ _ => trivial
  | ask q next ih => exact ih

lemma Yields.mono {x : Evaluation α} (hx : Yields mid x) (h : ∀ a, mid a → good a) :
    Yields good x := by
  unfold Yields at hx ⊢
  generalize x.run = y at hx
  induction y with
  | done r => exact fun a ha => h a (hx a ha)
  | ask q next ih => exact fun r => ih r (hx r)

lemma Yields.bind {x : Evaluation α} {g : α → Evaluation β} {good : β → Prop} (hx : Yields mid x)
    (hg : ∀ a, mid a → Yields good (g a)) : Yields good (x >>= g) := by
  change Inquiry.Yields good (Inquiry.bind x.run (ExceptT.bindCont g))
  unfold Yields at hx
  generalize x.run = y at hx
  induction y with
  | done r =>
    cases r with
    | error e => exact yields_throw e
    | ok a => exact hg a (hx a rfl)
  | ask q next ih => exact fun r => ih r (hx r)

lemma yields_bind {x : Evaluation α} {g : α → Evaluation β} {good : β → Prop}
    (hg : ∀ a, Yields good (g a)) : Yields good (x >>= g) :=
  (yields_any x).bind fun a _ => hg a

end Evaluation

namespace Context

variable {c : Context} {f : Frame}

lemma ends_take {δ : Type} {face : δ → ℕ → ℕ × δ} {d : δ} {call : Call}
    {r : Except RuleError Answer} (h : ((c.take call f).play face d).1.1.1 = r) :
    (c.result f (call.evaluation c).run).Ends r := by
  rw [take, carry_restores, Dice.Plan.play_map] at h
  rw [← h]
  exact Dice.Plan.ends_play face _ d

lemma started_of_ends {a : Activity} {v : Value} (h : (c.outcome f a).Ends (.ok v)) :
    ∃ x, c.start f a = .ok x ∧ (c.result (f.enter a) x).Ends (.ok v) := by
  cases hx : c.start f a with
  | error e =>
    rw [outcome_refused hx] at h
    cases h
  | ok x =>
    rw [outcome_started hx] at h
    exact ⟨x, rfl, h⟩

lemma ends_ok_bind {x : Evaluation α} {g : α → Evaluation β} {b : β} :
    (c.result f (x >>= g).run).Ends (.ok b) ↔
      ∃ a, (c.result f x.run).Ends (.ok a) ∧ (c.result f (g a).run).Ends (.ok b) := by
  rw [ExceptT.run_bind, result_bind, Dice.Plan.ends_bind]
  constructor
  · rintro ⟨r, hr, h⟩
    cases r with
    | error e => cases h
    | ok a => exact ⟨a, hr, h⟩
  · rintro ⟨a, ha, h⟩
    exact ⟨.ok a, ha, h⟩

lemma ends_ok_pure {a b : α} :
    (c.result f (pure a : Evaluation α).run).Ends (.ok b) ↔ a = b := by
  rw [ExceptT.run_pure, Inquiry.pure_eq, result_done, Dice.Plan.ends_done]
  constructor
  · intro h
    cases h
    rfl
  · rintro rfl
    rfl

end Context

end Tabletop
