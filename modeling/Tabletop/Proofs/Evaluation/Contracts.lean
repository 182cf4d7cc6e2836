import Tabletop.Proofs.Evaluation.Failures
import Tabletop.Proofs.Evaluation.Yields

namespace Tabletop

open Evaluation

variable {α : Type} {c : Context} {k : Contract} {good : α → Prop}

lemma Inquiry.Strict.and_yields {mid : α → Prop} {x : Inquiry (Except RuleError α)}
    (hx : x.Strict k mid) (hy : x.Yields good) : x.Strict k good := by
  induction x with
  | done r => exact ⟨hy, hx.2⟩
  | ask q next ih => exact ⟨hx.1, hx.2.1, fun a ha => ih (.ok a) (hx.2.2 a ha) (hy (.ok a))⟩

lemma Inquiry.Strict.ends {out : Activity → Dice.Plan Outcome}
    (hnow : ∀ q p r, k.asks q → c.reply q = .now p → p.Ends r → k.Admits (k.answers q) r)
    (henter : ∀ q b pass r, k.asks q → c.reply q = .enter b pass → (out b).Ends r →
      k.Admits (k.answers q) (pass r))
    {x : Inquiry (Except RuleError α)} (hx : x.Strict k good) {r : Except RuleError α}
    (h : (x.follow c out).Ends r) : k.Admits good r := by
  induction x with
  | done s =>
    obtain rfl := Dice.Plan.ends_done.1 h
    exact hx
  | ask q next ih =>
    obtain ⟨hq, herror, hok⟩ := hx
    -- a failure ends the inquiry at once, so only what succeeds is carried on
    have hnext (s : Except RuleError q.Answer) (hs : k.Admits (k.answers q) s)
        (h : ((next s).follow c out).Ends r) : k.Admits good r := by
      cases s with
      | error e =>
        rw [herror e] at h
        obtain rfl := Dice.Plan.ends_done.1 h
        exact Contract.admits_error.2 (Contract.admits_error.1 hs)
      | ok a => exact ih (.ok a) (hok a (hs.1 a rfl)) h
    cases hr : c.reply q with
    | now p =>
      rw [follow_now hr, Dice.Plan.ends_bind] at h
      obtain ⟨s, hp, h⟩ := h
      exact hnext s (hnow q p s hq hr hp) h
    | enter b pass =>
      rw [follow_enter hr, Dice.Plan.ends_bind] at h
      obtain ⟨s, hb, h⟩ := h
      exact hnext (pass s) (henter q b pass s hq hr hb) h

namespace Context

/-- Requests that the contract allows are met as it promises, and the activities that it allows keep
to it. -/
structure Honours (c : Context) (k : Contract) : Prop where
  now : ∀ q p r, k.asks q → c.reply q = .now p → p.Ends r → k.Admits (k.answers q) r
  entered : ∀ q b pass, k.asks q → c.reply q = .enter b pass → k.asks (.enter b) ∧
    ∀ r, k.Admits (k.answers (.enter b)) r → k.Admits (k.answers q) (pass r)
  refused : ∀ f a e, k.asks (.enter a) → c.start f a = .error e → k.raises e
  started : ∀ f a x, k.asks (.enter a) → c.start f a = .ok x → x.Strict k (k.answers (.enter a))

namespace Honours

variable {f : Frame}

lemma outcome (hk : c.Honours k) {a : Activity} {r : Outcome} (ha : k.asks (.enter a))
    (h : (c.outcome f a).Ends r) : k.Admits (k.answers (.enter a)) r := by
  induction f, a using activity_induction (c := c) generalizing r with
  | step f a ih =>
    cases hx : c.start f a with
    | error e =>
      rw [outcome_refused hx, Dice.Plan.ends_done] at h
      subst h
      exact Contract.admits_error.2 (hk.refused f a e ha hx)
    | ok x =>
      rw [outcome_started hx] at h
      refine (hk.started f a x ha hx).ends hk.now (fun q b pass r hq hr hb => ?_) h
      obtain ⟨hb', hpass⟩ := hk.entered q b pass hq hr
      exact hpass r (ih x hx b hb' hb)

lemma result (hk : c.Honours k) {x : Inquiry (Except RuleError α)} (hx : x.Strict k good)
    {r : Except RuleError α} (h : (c.result f x).Ends r) : k.Admits good r := by
  refine hx.ends hk.now (fun q b pass r hq hr hb => ?_) h
  obtain ⟨hb', hpass⟩ := hk.entered q b pass hq hr
  exact hpass r (hk.outcome hb' hb)

end Honours

end Context

structure Contract.Tolerant (k : Contract) : Prop extends k.Lenient where
  nested : ∀ e, ¬ e.Plain → k.raises e

namespace Contract.Tolerant

variable (hk : k.Tolerant)

include hk

lemma raises_refused {f : Frame} {a : Activity} {e : RuleError} (h : c.start f a = .error e) :
    k.raises e := by
  cases a with
  | evaluate id =>
    rcases Context.refused_evaluate h with ⟨rfl, _⟩ | ⟨rfl, _⟩ | rfl
    · exact hk.nested _ fun h => h
    · exact hk.nested _ fun h => h
    · exact hk.raises _ trivial
  | run id args =>
    rcases Context.refused_run h with rfl | ⟨rfl, _⟩ | ⟨rfl, _⟩
    · exact hk.raises _ trivial
    · exact hk.nested _ fun h => h
    · exact hk.nested _ fun h => h

lemma raises_now {q : Request} {e : RuleError} (h : c.FailsNow q e)
    (hroll : ∀ r fault, q = .roll r → (∀ n, fault = .invalid n → r.fault? = some fault) →
      k.raises (.dice fault))
    (happly : ∀ id args, q = .apply id args → maxParameters < args.length →
      k.raises (.tooManyParameters args.length maxParameters)) : k.raises e := by
  rcases h with (h | ⟨rfl, _⟩) | h
  · exact hk.raises e h
  · exact hk.nested _ fun h => h
  · cases q with
    | roll r =>
      obtain ⟨fault, rfl, hfault⟩ := h
      exact hroll r fault rfl hfault
    | apply id args =>
      obtain ⟨hmany, rfl⟩ := h
      exact happly id args rfl hmany
    | enter | value | entry => cases h

end Contract.Tolerant

end Tabletop
