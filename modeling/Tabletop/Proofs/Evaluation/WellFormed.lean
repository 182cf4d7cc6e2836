import Tabletop.Proofs.Document.WellFormed
import Tabletop.Proofs.Evaluation.Contracts
import Tabletop.Proofs.Evaluation.Typing

namespace Tabletop

open Evaluation

/-- Errors that only rules raise that are not well-formed. -/
def RuleError.IllFormed : RuleError → Prop
  | dice (.invalid _) | tooManyParameters .. => True
  | _ => False

def Store.WellFormed (s : Store) : Prop := ∀ v ∈ s.slots, v.setting.WellFormed

def Value.WellFormed (v : Value) : Prop := ∀ r, v = .diceRoll r → r.fault? = none

def Contract.wellFormed : Contract where
  asks
    | .roll r => r.fault? = none
    | .apply _ args | .enter (.run _ args) => args.length ≤ maxParameters
    | _ => True
  answers
    | .value _, v | .enter (.evaluate _), v => v.WellFormed
    | _, _ => True
  raises e := ¬ e.IllFormed

lemma Contract.tolerant_wellFormed : wellFormed.Tolerant where
  raises e he := by
    cases e <;> first | exact id | exact he.elim
  entry _ := trivial
  nested e he := by
    cases e <;> first | exact id | exact absurd trivial he

lemma Value.wellFormed_of_type {v : Value} (h : v.type ≠ .diceRoll) : v.WellFormed := by
  rintro r rfl
  exact absurd rfl h

lemma Variable.yields_wellFormed (b : Rulebook) {v : Variable} (hv : v.setting.WellFormed) :
    Yields Value.WellFormed (v.evaluate b) := by
  have htyped (h : v.type ≠ .diceRoll) : Yields Value.WellFormed (v.evaluate b) :=
    (v.yields b).mono fun w hw => Value.wellFormed_of_type (hw ▸ h)
  rcases hs : v.setting with s | s | s | s
  · exact htyped (by simp [type, hs, Setting.type])
  · exact htyped (by simp [type, hs, Setting.type])
  · exact htyped (by simp [type, hs, Setting.type])
  · cases s with
    | literal r =>
      rw [evaluate, hs]
      refine yields_pure fun d hd => ?_
      cases hd
      exact hv.dice r hs

lemma DiceRef.fault?_of_may {r : DiceRef} {d : Dice.Roll}
    (hr : ∀ l, r = .literal l → l.fault? = none) (h : r.May .wellFormed d) : d.fault? = none := by
  cases r with
  | literal l =>
    obtain rfl : d = l := h
    exact hr d rfl
  | «variable» v => exact h d rfl

namespace Context

variable {c : Context} {f : Frame}

lemma strict_evaluate (hb : c.rulebook.WellFormed) {v : Variable} (hv : v.setting.WellFormed) :
    Strict .wellFormed Value.WellFormed (v.evaluate c.rulebook) := by
  have hk := Contract.tolerant_wellFormed.toLenient
  refine Inquiry.Strict.and_yields (v.strict hk c.rulebook (fun _ _ => trivial) (fun _ _ => trivial)
    ?_ ?_ ?_) (v.yields_wellFormed c.rulebook hv)
  · intro i hi hmany
    exact absurd (hv.arguments i hi) (Nat.not_le.2 hmany)
  · intro i hi args hargs
    exact Nat.le_trans (Nat.le_of_eq hargs) (hv.arguments i hi)
  · intro id s _ hs t ht r d hr hd
    have hwf := hb.summations s (List.mem_of_find?_eq_some hs)
    exact DiceRef.fault?_of_may (fun l hl => hwf t ht l (hl ▸ hr)) hd

lemma strict_execute {p : Program} (hp : p.WellFormed) {args : List Value}
    (hargs : args.length ≤ maxParameters) :
    Strict .wellFormed (fun _ => True) (p.execute args) := by
  refine p.strict Contract.tolerant_wellFormed.toLenient args (fun _ _ => trivial) ?_ ?_
    (fun _ _ _ => id) ?_
  · intro hmany
    exact absurd hargs (Nat.not_le.2 hmany)
  · intro s hs hmany
    exact absurd (hp s hs) (Nat.not_le.2 hmany)
  · intro s hs vs hvs
    exact Nat.le_trans (Nat.le_of_eq hvs) (hp s hs)

lemma honours_wellFormed (hb : c.rulebook.WellFormed) (hs : c.store.WellFormed) :
    c.Honours .wellFormed := by
  have hk := Contract.tolerant_wellFormed
  constructor
  · intro q p r hq hp hr
    refine ⟨fun a ha => ?_, fun e he => ?_⟩
    · cases q with
      | enter => cases hp
      | entry | roll | apply => trivial
      | value v =>
        -- a variable is met at once only where there is no such variable
        simp only [reply] at hp
        split at hp <;> cases hp
        cases (Dice.Plan.ends_done.1 hr).symm.trans ha
    · refine hk.raises_now (failsNow_of_now hp (he ▸ hr)) ?_ ?_
      · rintro d fault rfl hfault
        cases fault with
        | invalid quantity =>
          have hvalid : d.fault? = none := hq
          rw [hfault quantity rfl] at hvalid
          cases hvalid
        | tooMany => exact id
      · rintro id args rfl hmany
        exact absurd hq (Nat.not_le.2 hmany)
  · intro q b pass hq hp
    cases q with
    | entry | roll => cases hp
    | enter a =>
      cases hp
      exact ⟨hq, fun r hr => hr⟩
    | value v =>
      simp only [reply] at hp
      split at hp <;> cases hp
      exact ⟨trivial, fun r hr => hr⟩
    | apply name args =>
      simp only [reply] at hp
      split at hp
      · cases hp
      · split at hp <;> cases hp
        exact ⟨hq, fun r hr => hr⟩
  · exact fun f a e _ he => hk.raises_refused he
  · intro f a x ha hx
    cases a with
    | evaluate id =>
      obtain ⟨_, v, hv, rfl⟩ := start_evaluate hx
      exact strict_evaluate hb (hs v (List.mem_of_find?_eq_some hv))
    | run id args =>
      obtain ⟨_, p, hp, rfl⟩ := start_run hx
      exact strict_execute (hb.programs p (List.mem_of_find?_eq_some hp)) ha

end Context

end Tabletop
