import Tabletop.Proofs.Dependency.Graph
import Tabletop.Proofs.Evaluation.Unwinding

/-! Two contexts of which the first does as the second, except that it breaks off in certain ways.
All that an evaluator does goes the same way in both until it is broken off. -/

namespace Tabletop

variable {α : Type} {cut : RuleError → Prop} {c c' : Context}

def FailsAs (cut : RuleError → Prop) (r : Except RuleError α) : Prop := ∃ e, r = .error e ∧ cut e

inductive Reply.BrokenOff (cut : RuleError → Prop) : Reply α → Reply α → Prop
  | cut {e : RuleError} {r : Reply α} : cut e → BrokenOff cut (.now (.done (.error e))) r
  | now {p p' : Dice.Plan (Except RuleError α)} : p.BrokenOff (FailsAs cut) p' →
      BrokenOff cut (.now p) (.now p')
  | enter (b : Activity) (pass : Outcome → Except RuleError α) :
      BrokenOff cut (.enter b pass) (.enter b pass)

lemma Reply.BrokenOff.refl (r : Reply α) : r.BrokenOff cut r := by
  cases r with
  | now p => exact .now (.refl p)
  | enter b pass => exact .enter b pass

namespace Context

structure BrokenOff (cut : RuleError → Prop) (c c' : Context) : Prop where
  reply : ∀ q, (c.reply q).BrokenOff cut (c'.reply q)
  start : ∀ f a, FailsAs cut (c.start f a) ∨ c'.start f a = c.start f a

lemma pass_failure {q : Request} {b : Activity} {pass : Outcome → Except RuleError q.Answer}
    (h : c.reply q = .enter b pass) (e : RuleError) : pass (.error e) = .error e := by
  cases q with
  | enter a =>
    cases h
    rfl
  | value r =>
    simp only [reply] at h
    split at h <;> cases h
    rfl
  | entry r | roll r => cases h
  | apply id args =>
    simp only [reply] at h
    split at h
    · cases h
    · split at h <;> cases h
      rfl

namespace BrokenOff

variable (h : c.BrokenOff cut c')

include h

lemma follow {out out' : Activity → Dice.Plan Outcome}
    (hout : ∀ b, (out b).BrokenOff (FailsAs cut) (out' b)) {asks : Request → Prop}
    {x : Inquiry (Except RuleError α)} (hx : x.Strict (.plain asks) fun _ => True) :
    (x.follow c out).BrokenOff (FailsAs cut) (x.follow c' out') := by
  induction x with
  | done r => exact .refl _
  | ask q next ih =>
    obtain ⟨_, herror, hok⟩ := hx
    have hnext (r : Except RuleError q.Answer) :
        ((next r).follow c out).BrokenOff (FailsAs cut) ((next r).follow c' out') := by
      cases r with
      | error e =>
        rw [herror e]
        exact .refl _
      | ok a => exact ih (.ok a) (hok a trivial)
    -- an error that breaks off the reply is passed on to the end
    have hstop {r : Except RuleError q.Answer} (hr : FailsAs cut r) :
        ∃ r', FailsAs cut r' ∧ (next r).follow c out = .done r' := by
      obtain ⟨e, rfl, he⟩ := hr
      exact ⟨.error e, ⟨e, rfl, he⟩, by rw [herror e]; rfl⟩
    have hreply := h.reply q
    cases hq : c.reply q with
    | now p =>
      rw [hq] at hreply
      rw [Inquiry.follow_now hq]
      generalize hq' : c'.reply q = r' at hreply
      cases hreply with
      | @cut e _ he =>
        obtain ⟨r, hr, hdone⟩ := hstop ⟨e, rfl, he⟩
        rw [Dice.Plan.done_bind, hdone]
        exact .cut hr
      | now hp =>
        rw [Inquiry.follow_now hq']
        exact hp.bind (fun r => hstop) hnext
    | enter b pass =>
      rw [hq] at hreply
      rw [Inquiry.follow_enter hq]
      generalize hq' : c'.reply q = r' at hreply
      cases hreply with
      | enter =>
        rw [Inquiry.follow_enter hq']
        refine (hout b).bind (fun r hr => hstop ?_) fun r => hnext (pass r)
        obtain ⟨e, rfl, he⟩ := hr
        exact ⟨e, pass_failure hq e, he⟩

lemma outcome (f : Frame) (a : Activity) :
    (c.outcome f a).BrokenOff (FailsAs cut) (c'.outcome f a) := by
  induction f, a using activity_induction (c := c) with
  | step f a ih =>
    rcases h.start f a with ⟨e, hstart, he⟩ | hsame
    · rw [outcome_refused hstart]
      exact .cut ⟨e, rfl, he⟩
    · cases hx : c.start f a with
      | error e =>
        rw [outcome_refused hx, outcome_refused (hsame.trans hx)]
        exact .refl _
      | ok x =>
        rw [outcome_started hx, outcome_started (hsame.trans hx)]
        exact h.follow (ih x hx) (start_strict hx)

lemma result (f : Frame) {asks : Request → Prop} {x : Inquiry (Except RuleError α)}
    (hx : x.Strict (.plain asks) fun _ => True) :
    (c.result f x).BrokenOff (FailsAs cut) (c'.result f x) := h.follow (h.outcome f) hx

end BrokenOff

end Context

end Tabletop
