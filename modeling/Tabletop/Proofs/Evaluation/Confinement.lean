import Tabletop.Evaluation.Evaluator
import Tabletop.Proofs.Plans

/-! What rules ask for, what they come to and how they fail, as long as they are told what they may
expect. -/

namespace Tabletop

variable {α β : Type}

/-- Errors that do not come from nesting. Rules raise only such errors themselves. -/
def RuleError.Plain : RuleError → Prop
  | cyclicVariable _ | cyclicInvocation _ | tooDeep .. => False
  | _ => True

/-- Requests that rules may make, answers that they may be given, and errors that they may raise. -/
structure Contract where
  asks : Request → Prop
  answers : (q : Request) → q.Answer → Prop
  raises : RuleError → Prop

def Contract.Admits (k : Contract) (good : α → Prop) (r : Except RuleError α) : Prop :=
  (∀ a, r = .ok a → good a) ∧ ∀ e, r = .error e → k.raises e

lemma Contract.admits_ok {k : Contract} {good : α → Prop} {a : α} :
    k.Admits good (.ok a) ↔ good a := by
  simp [Admits]

lemma Contract.admits_error {k : Contract} {good : α → Prop} {e : RuleError} :
    k.Admits good (.error e) ↔ k.raises e := by
  simp [Admits]

def Contract.plain (asks : Request → Prop) : Contract := ⟨asks, fun _ _ => True, RuleError.Plain⟩

namespace Inquiry

/-- The inquiry asks only for what is in `asks`, and it fails only as is in `fails`, as long as
that is how what it asks for fails. -/
def Confined (asks : Request → Prop) (fails : RuleError → Prop) :
    Inquiry (Except RuleError α) → Prop
  | .done r => ∀ e, r = .error e → fails e
  | .ask q next => asks q ∧ ∀ r, (∀ e, r = .error e → fails e) → (next r).Confined asks fails

/-- The inquiry keeps to the contract, comes to what is in `good`, and ends with the first failure
that it is told of. -/
def Strict (k : Contract) (good : α → Prop) : Inquiry (Except RuleError α) → Prop
  | .done r => k.Admits good r
  | .ask q next => k.asks q ∧ (∀ e, next (.error e) = .done (.error e)) ∧
      ∀ a, k.answers q a → (next (.ok a)).Strict k good

lemma Strict.confined {k : Contract} {good : α → Prop} {fails : RuleError → Prop}
    {x : Inquiry (Except RuleError α)} (hx : x.Strict k good) (hanswers : ∀ q a, k.answers q a)
    (h : ∀ e, k.raises e → fails e) : x.Confined k.asks fails := by
  induction x with
  | done r => exact fun e he => h e (hx.2 e he)
  | ask q next ih =>
    obtain ⟨hq, herror, hok⟩ := hx
    refine ⟨hq, fun r hr => ?_⟩
    cases r with
    | error e =>
      rw [herror e]
      intro e' he
      cases he
      exact hr e rfl
    | ok a => exact ih (.ok a) (hok a (hanswers q a))

end Inquiry

namespace Evaluation

variable {asks : Request → Prop} {fails : RuleError → Prop} {k : Contract} {mid good : α → Prop}

def Confined (asks : Request → Prop) (fails : RuleError → Prop) (x : Evaluation α) : Prop :=
  x.run.Confined asks fails

def Strict (k : Contract) (good : α → Prop) (x : Evaluation α) : Prop := x.run.Strict k good

lemma confined_pure (a : α) : Confined asks fails (pure a : Evaluation α) :=
  fun e h => by cases h

lemma Confined.bind {x : Evaluation α} {g : α → Evaluation β} (hx : Confined asks fails x)
    (hg : ∀ a, Confined asks fails (g a)) : Confined asks fails (x >>= g) := by
  change Inquiry.Confined asks fails (Inquiry.bind x.run (ExceptT.bindCont g))
  unfold Confined at hx
  generalize x.run = y at hx
  induction y with
  | done r =>
    cases r with
    | error e => exact fun e' he => by cases he; exact hx e rfl
    | ok a => exact hg a
  | ask q next ih => exact ⟨hx.1, fun r hr => ih r (hx.2 r hr)⟩

lemma Strict.confined {x : Evaluation α} (hx : Strict k good x) (hanswers : ∀ q a, k.answers q a)
    (h : ∀ e, k.raises e → fails e) : Confined k.asks fails x :=
  Inquiry.Strict.confined hx hanswers h

lemma strict_pure {a : α} (h : good a) : Strict k good (pure a : Evaluation α) :=
  Contract.admits_ok.2 h

lemma strict_throw {e : RuleError} (h : k.raises e) : Strict k good (throw e : Evaluation α) :=
  Contract.admits_error.2 h

lemma strict_ask {q : Request} (h : k.asks q) : Strict k (k.answers q) (ask q) :=
  ⟨h, fun _ => rfl, fun _ ha => strict_pure ha⟩

lemma strict_lift {r : Except RuleError α} (hok : ∀ a, r = .ok a → good a)
    (herror : ∀ e, r = .error e → k.raises e) : Strict k good (liftM r : Evaluation α) := by
  cases r with
  | error e => exact strict_throw (herror e rfl)
  | ok a => exact strict_pure (hok a rfl)

lemma Strict.mono {x : Evaluation α} (hx : Strict k mid x) (h : ∀ a, mid a → good a) :
    Strict k good x := by
  unfold Strict at hx ⊢
  generalize x.run = y at hx
  induction y with
  | done r => exact ⟨fun a ha => h a (hx.1 a ha), hx.2⟩
  | ask q next ih => exact ⟨hx.1, hx.2.1, fun a ha => ih (.ok a) (hx.2.2 a ha)⟩

lemma Strict.bind {x : Evaluation α} {g : α → Evaluation β} {good : β → Prop} (hx : Strict k mid x)
    (hg : ∀ a, mid a → Strict k good (g a)) : Strict k good (x >>= g) := by
  change Inquiry.Strict k good (Inquiry.bind x.run (ExceptT.bindCont g))
  unfold Strict at hx
  generalize x.run = y at hx
  induction y with
  | done r =>
    cases r with
    | error e => exact strict_throw (hx.2 e rfl)
    | ok a => exact hg a (hx.1 a rfl)
  | ask q next ih =>
    obtain ⟨hq, herror, hok⟩ := hx
    refine ⟨hq, fun e => ?_, fun a ha => ih (.ok a) (hok a ha)⟩
    exact congrArg (Inquiry.bind · (ExceptT.bindCont g)) (herror e)

lemma Strict.andThen {x : Evaluation α} {g : α → Evaluation β} {good : β → Prop}
    (hx : Strict k (fun _ => True) x) (hg : ∀ a, Strict k good (g a)) : Strict k good (x >>= g) :=
  hx.bind fun a _ => hg a

lemma strict_mapM {g : α → Evaluation β} {xs : List α}
    (h : ∀ x ∈ xs, Strict k (fun _ => True) (g x)) :
    Strict k (fun ys => ys.length = xs.length) (xs.mapM g) := by
  induction xs with
  | nil => exact strict_pure rfl
  | cons x xs ih =>
    rw [List.mapM_cons]
    refine (h x (by simp)).bind fun y _ => ?_
    refine (ih fun z hz => h z (by simp [hz])).bind fun ys hys => strict_pure ?_
    rw [List.length_cons, List.length_cons, hys]

lemma strict_foldlM {g : β → α → Evaluation β} {xs : List α} {good : β → Prop}
    (h : ∀ b, ∀ x ∈ xs, Strict k good (g b x)) {b : β} (hb : good b) :
    Strict k good (xs.foldlM g b) := by
  induction xs generalizing b with
  | nil => exact strict_pure hb
  | cons x xs ih =>
    rw [List.foldlM_cons]
    exact (h b x (by simp)).bind fun b hb => ih (fun b z hz => h b z (by simp [hz])) hb

end Evaluation

end Tabletop
