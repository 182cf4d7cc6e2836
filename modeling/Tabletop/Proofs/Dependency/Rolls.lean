import Tabletop.Proofs.Dependency.Paths
import Tabletop.Proofs.Evaluation.Reuse

namespace Tabletop

open Relation (ReflTransGen)

variable {α : Type} {c : Context} {id : VariableId}

lemma Context.done_of_now {q : Request} {p : Dice.Plan (Except RuleError q.Answer)}
    (h : c.reply q = .now p) (hq : ∀ r, q ≠ .roll r) : ∃ r, p = .done r := by
  cases q with
  | enter a => cases h
  | value r =>
    simp only [reply] at h
    split at h <;> cases h
    exact ⟨_, rfl⟩
  | entry r =>
    cases h
    exact ⟨_, rfl⟩
  | roll r => exact absurd rfl (hq r)
  | apply f args =>
    simp only [reply] at h
    split at h
    · cases h
      exact ⟨_, rfl⟩
    · split at h <;> cases h
      exact ⟨_, rfl⟩

lemma Inquiry.follow_eq_done {out : Activity → Dice.Plan Outcome} {asks : Request → Prop}
    {fails : RuleError → Prop} (hroll : ∀ r, ¬ asks (.roll r)) (hfails : ∀ e, fails e)
    (hout : ∀ q b pass, asks q → c.reply q = .enter b pass → ∃ r, out b = .done r)
    {x : Inquiry (Except RuleError α)} (hx : x.Confined asks fails) :
    ∃ r, x.follow c out = .done r := by
  induction x with
  | done r => exact ⟨r, rfl⟩
  | ask q next ih =>
    obtain ⟨hq, hnext⟩ := hx
    cases hr : c.reply q with
    | now p =>
      obtain ⟨r, rfl⟩ := Context.done_of_now hr fun r hroll' => hroll r (hroll' ▸ hq)
      rw [follow_now hr]
      exact ih r (hnext r fun e _ => hfails e)
    | enter b pass =>
      obtain ⟨r, hb⟩ := hout q b pass hq hr
      rw [follow_enter hr, hb]
      exact ih (pass r) (hnext (pass r) fun e _ => hfails e)

namespace Context

variable (hquiet : ∀ other, ReflTransGen c.Depends id other → ¬ c.Rolls other)

include hquiet

lemma outcome_eq_done {f : Frame} {a : Activity} (ha : ReflTransGen c.Leads (.slot id) a.vertex) :
    ∃ r, c.outcome f a = .done r := by
  induction f, a using activity_induction (c := c) with
  | step f a ih =>
    cases hx : c.start f a with
    | error e => exact ⟨_, outcome_refused hx⟩
    | ok x =>
      rw [outcome_started hx]
      have hstrict : x.Strict (.plain fun q => c.Aims a.vertex q ∧ ∀ r, q ≠ .roll r)
          fun _ => True := by
        refine strict_of_start hx (fun q => And.intro) ?_
        rintro other r rfl hother
        exact absurd hother (hquiet other (depends_of_reaches ha))
      refine Inquiry.follow_eq_done (fun r hr => hr.2 r rfl) (fun _ => trivial)
        (fun q b pass hq hr => ?_) (hstrict.confined (fun _ _ => trivial) fun _ _ => trivial)
      exact ih x hx b (ha.tail (hq.1 b pass hr))

lemma fresh_eq_done : ∃ r, c.fresh (Evaluation.enter (.evaluate id)).run = .done r := by
  rw [fresh_eq, result_enter]
  exact outcome_eq_done hquiet .refl

end Context

/-- A variable draws no die unless it, or one that it depends on, is set to a summation that rolls.
Its value is then the same whatever dice there are, also in a report, where variables that roll may
come before it. -/
theorem values_without_rolls_fixed (s : Sheet) (id : VariableId)
    (hquiet : ∀ other, ReflTransGen s.Depends id other → ¬ s.Rolls other) :
    ∃ r, (s.value id).run = .done r ∧
      ∀ {δ : Type} (face : δ → ℕ → ℕ × δ) (d : δ),
        (s.value id).run.play face d = ((r, []), d) ∧
        ∀ r', (id, r') ∈ (s.evaluateAll.play face d).1.1 ↔ s.store.contains id = true ∧ r' = r := by
  obtain ⟨r, hr⟩ : ∃ r, (s.value id).run = .done r := Context.fresh_eq_done hquiet
  refine ⟨r, hr, fun face d => ⟨by rw [hr]; rfl, fun r' => ?_⟩⟩
  have hentry {r' : Except RuleError Value} (h : (id, r') ∈ (s.evaluateAll.play face d).1.1) :
      r' = r := by
    have hends := Sheet.ends_of_mem_evaluateAll h
    rwa [hr, Dice.Plan.ends_done] at hends
  have hkeys : id ∈ (s.evaluateAll.play face d).1.1.map Prod.fst ↔ s.store.contains id = true := by
    rw [Sheet.evaluateAll, Sheet.report_eq, Sheet.keys_valuesInTurn, Store.mem_ids_iff]
  constructor
  · intro h
    exact ⟨hkeys.1 (List.mem_map_of_mem h), hentry h⟩
  · rintro ⟨hid, rfl⟩
    obtain ⟨⟨_, r'⟩, hmem, rfl⟩ := List.mem_map.1 (hkeys.2 hid)
    rwa [hentry hmem] at hmem

namespace Warded

def armor : VariableId := { name := "armor" }

def attack : VariableId := { name := "attack" }

def ward : VariableId := { name := "ward" }

def throws : Summation where
  id := "throws"
  name := "Throws"
  terms := ⟨[⟨none, .diceRoll (.literal { quantities := ⟨[⟨8, 2⟩], by simp⟩ })⟩], by simp⟩

def guard : Summation where
  id := "guard"
  name := "Guard"
  terms := ⟨[⟨none, .number (.variable (.id armor))⟩], by simp⟩

def warded : Sheet where
  rulebook := { summations := ⟨[guard, throws], by decide⟩ }
  store := ⟨⟨[⟨armor, "", "", ∅, .number (.literal 3), []⟩,
    ⟨attack, "", "", ∅, .number (.summation "throws"), []⟩,
    ⟨ward, "", "", ∅, .number (.summation "guard"), []⟩], by decide⟩⟩

lemma rolls_attack : warded.Rolls attack :=
  ⟨_, "throws", throws, rfl, rfl, rfl, _, List.mem_singleton.2 rfl, _, rfl⟩

lemma not_rolls_below_ward {other : VariableId} (h : ReflTransGen warded.Depends ward other) :
    ¬ warded.Rolls other := by
  have hdepends {x y : VariableId} (h : warded.Depends x y) : y = armor := by
    obtain ⟨v, hv, r, hr, hy⟩ := Context.depends_iff.1 h
    have hmem := List.mem_of_find?_eq_some hv
    simp only [warded, List.mem_cons, List.not_mem_nil, or_false] at hmem
    rcases hmem with rfl | rfl | rfl
    · cases hr
    · cases hr
    · cases List.mem_singleton.1 hr
      exact List.mem_singleton.1 hy
  rintro ⟨v, summation, s, hv, hsetting, hs, t, ht, r, hr⟩
  rcases ReflTransGen.cases_tail h with rfl | ⟨x, _, h⟩
  · cases hv
    cases hsetting
    cases hs
    cases List.mem_singleton.1 ht
    cases hr
  · cases hdepends h
    cases hv
    cases hsetting

end Warded

open Warded in
theorem values_without_rolls_fixed_warded :
    warded.Rolls attack ∧ (∀ other, ReflTransGen warded.Depends ward other → ¬ warded.Rolls other) ∧
      ∃ r, (warded.value ward).run = .done r ∧ ∀ (face : ℕ → ℕ → ℕ × ℕ) (d : ℕ),
        (ward, r) ∈ (warded.evaluateAll.play face d).1.1 := by
  refine ⟨rolls_attack, fun _ => not_rolls_below_ward, ?_⟩
  obtain ⟨r, hr, hreport⟩ := values_without_rolls_fixed warded ward fun _ => not_rolls_below_ward
  exact ⟨r, hr, fun face d => ((hreport face d).2 r).2 ⟨rfl, rfl⟩⟩

end Tabletop
