import Tabletop.Proofs.Evaluation.Failures
import Tabletop.Proofs.Evaluation.Moments

namespace Tabletop

open Evaluation

variable {α : Type} {fails : RuleError → Prop}

def RuleError.Shallow (e : RuleError) : Prop := ∀ nesting limit, e ≠ .tooDeep nesting limit

lemma RuleError.Plain.shallow {e : RuleError} (h : e.Plain) : e.Shallow := by
  rintro nesting limit rfl
  exact h

structure Context.Ample (c : Context) : Prop where
  slots : c.store.slots.toList.length < c.limits.evaluations.toNat
  programs : c.rulebook.programs.toList.length ≤ c.limits.invocations.toNat
  valueSets : c.rulebook.valueSets.toList.length ≤ c.limits.valueSets.toNat

lemma Inquiry.confined_ok (x : Inquiry α) :
    (Except.ok <$> x : Inquiry (Except RuleError α)).Confined (fun _ => True) fails := by
  rw [map_eq_pure_bind]
  induction x with
  | done r => exact fun e he => by cases he
  | ask q next ih => exact ⟨trivial, fun r _ => ih r⟩

lemma Call.strict (c : Context) {call : Call} (h : ∀ p t, call ≠ .conformance p t) :
    Strict (.plain fun _ => True) (fun _ => True) (call.evaluation c) := by
  have hk : (Contract.plain fun _ => True).Lenient := Contract.lenient_plain fun _ => trivial
  cases call with
  | evaluate | value | entry | run | apply | roll =>
    exact Strict.bind (strict_ask trivial) fun _ _ => strict_pure trivial
  | values r =>
    refine Strict.andThen (strict_lift (fun _ _ => trivial) fun e he =>
      (Store.ordinary_of_resolve he).plain) fun vs => ?_
    refine Strict.bind (strict_mapM fun v _ => ?_) fun _ _ => strict_pure trivial
    exact strict_ask trivial
  | resolve r => exact (r.strict hk fun _ _ => trivial).bind fun _ _ => strict_pure trivial
  | invoke i =>
    exact (i.strict hk (fun _ _ => trivial) (fun _ => trivial) fun _ _ => trivial).bind
      fun _ _ => strict_pure trivial
  | summation id =>
    exact (c.rulebook.strict_summation hk id (fun _ _ => trivial)
      fun _ _ _ _ _ _ _ _ => trivial).bind fun _ _ => strict_pure trivial
  | isActive m =>
    exact (Mechanic.strict_holds hk _ fun _ _ => trivial).bind fun _ _ => strict_pure trivial
  | conformance p t => exact absurd rfl (h p t)

lemma Call.confined (c : Context) (call : Call) (hplain : ∀ e, RuleError.Plain e → fails e) :
    Confined (fun _ => True) fails (call.evaluation c) := by
  by_cases h : ∃ p t, call = .conformance p t
  · obtain ⟨p, t, rfl⟩ := h
    have hthrow {e : RuleError} (he : e.Plain) :
        Confined (fun _ => True) fails (throw e : Evaluation Conformance) := by
      have hstrict : Strict (.plain fun _ => True) (fun _ => True)
          (throw e : Evaluation Conformance) := strict_throw he
      exact hstrict.confined (fun _ _ => trivial) hplain
    refine Confined.bind ?_ fun _ => confined_pure _
    rw [Conformance.check]
    split
    · exact hthrow trivial
    · exact hthrow trivial
    · exact Inquiry.confined_ok _
  · simp only [not_exists] at h
    exact (Call.strict c h).confined (fun _ _ => trivial) hplain

namespace Context

variable {c : Context} {f : Frame} {a : Activity} {e : RuleError}

lemma shallow_of_fails (hc : c.Ample) (h : c.Fails e) : e.Shallow := by
  rcases h with h | ⟨_, h⟩
  · exact h.shallow
  · have hsets := hc.valueSets
    rw [ValueSets.ids, List.length_map] at h
    omega

lemma shallow_refused (hc : c.Ample) (hf : f.Sound c) (h : c.start f a = .error e) :
    e.Shallow := by
  cases a with
  | evaluate id =>
    rcases refused_evaluate h with ⟨rfl, _⟩ | ⟨_, hl⟩ | rfl
    · exact fun _ _ h => by cases h
    · have hlen := hf.evaluating_nodup.length_le_of_subset hf.evaluating_defined
      have hvars := hc.slots
      rw [Store.ids, List.length_map] at hlen
      omega
    · exact RuleError.Plain.shallow trivial
  | run id args =>
    rcases refused_run h with rfl | ⟨rfl, _⟩ | ⟨_, hid, hn, hl⟩
    · exact RuleError.Plain.shallow trivial
    · exact fun _ _ h => by cases h
    · have hlen := hf.length_running_lt hid hn
      have hprograms := hc.programs
      omega

lemma shallow_take (hc : c.Ample) (hf : f.Sound c) {call : Call} {g : Frame}
    (h : (c.take call f).Ends (.error e, g)) : e.Shallow := by
  rw [take, carry_restores, Dice.Plan.ends_map] at h
  obtain ⟨r, hr, he⟩ := h
  obtain ⟨rfl, _⟩ := Prod.mk.inj he
  refine fails_follow (fun e => shallow_of_fails hc) (fun q b pass _ _ e hb => ?_)
    (call.confined c fun e he => he.shallow) hr
  exact fails_outcome (motive := fun f _ => f.Sound c) (fun e => shallow_of_fails hc)
    (fun f a e hf he => shallow_refused hc hf he) (fun f a x b hf hx _ => hf.enter hx) hf hb

end Context

end Tabletop
