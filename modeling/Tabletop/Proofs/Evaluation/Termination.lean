import Mathlib.Order.WellFounded
import Tabletop.Proofs.Evaluation.Depth
import Tabletop.Proofs.Evaluation.Reuse

namespace Tabletop

open Relation (ReflTransGen)

namespace Context

variable {α β : Type} {c : Context} {f g : Frame}

lemma inquiry_induction {motive : ∀ β : Type, Frame → Inquiry β → Prop}
    (done : ∀ β f r, motive β f (.done r))
    (now : ∀ β f q next p, c.reply q = .now p → (∀ r, motive β f (next r)) →
      motive β f (.ask q next))
    (refuse : ∀ β f q next b pass e, c.reply q = .enter b pass → c.start f b = .error e →
      (∀ r, motive β f (next r)) → motive β f (.ask q next))
    (enter : ∀ β f q next b pass y, c.reply q = .enter b pass → c.start f b = .ok y →
      motive Outcome (f.enter b) y → (∀ r, motive β f (next r)) → motive β f (.ask q next))
    (β : Type) (f : Frame) (x : Inquiry β) : motive β f x := by
  induction hn : f.room c using Nat.strongRecOn generalizing f β x with
  | _ n ih =>
    -- an activity is entered in a frame with less room; all else goes on in the same frame
    induction x with
    | done r => exact done β f r
    | ask q next ihx =>
      cases hq : c.reply q with
      | now p => exact now β f q next p hq ihx
      | enter b pass =>
        cases hy : c.start f b with
        | error e => exact refuse β f q next b pass e hq hy ihx
        | ok y => exact enter β f q next b pass y hq hy (ih _ (hn ▸ room_enter_lt hy) _ _ y rfl) ihx

def Finishes (c : Context) (m : Moment α) : Prop := Acc (fun n m => c.Step m n) m

lemma finishes_course (f : Frame) (x : Inquiry β) (rest : β → Course α)
    (h : ∀ r, c.Finishes ⟨f, rest r⟩) : c.Finishes ⟨f, x.course rest⟩ := by
  induction β, f, x using inquiry_induction (c := c) with
  | done β f r => exact h r
  | now β f q next p hq ih =>
    refine .intro _ fun m hs => ?_
    obtain ⟨r, _, rfl⟩ := step_now hq hs
    exact ih r rest h
  | refuse β f q next b pass e hq hb ih =>
    refine .intro _ fun m hs => ?_
    obtain rfl := step_refused hq hb hs
    exact ih _ rest h
  | enter β f q next b pass y hq hb ihy ih =>
    refine .intro _ fun m hs => ?_
    obtain rfl := step_entered hq hb hs
    refine ihy _ fun r => .intro _ fun m hs => ?_
    obtain rfl := step_left hs
    exact ih _ rest h

lemma run_of_ends {x : Inquiry β} {r : β} (h : (c.result f x).Ends r) (rest : β → Course α) :
    ReflTransGen c.Step ⟨f, x.course rest⟩ ⟨f, rest r⟩ := by
  induction β, f, x using inquiry_induction (c := c) generalizing α with
  | done β f s =>
    obtain rfl := Dice.Plan.ends_done.1 h
    exact .refl
  | now β f q next p hq ih =>
    rw [result_now hq, Dice.Plan.ends_bind] at h
    obtain ⟨s, hp, h⟩ := h
    exact .head (.now hq hp) (ih s h rest)
  | refuse β f q next b pass e hq hb ih =>
    rw [result_refused hq hb] at h
    exact .head (.refuse hq hb) (ih _ h rest)
  | enter β f q next b pass y hq hb ihy ih =>
    rw [result_entered hq hb, Dice.Plan.ends_bind] at h
    obtain ⟨s, hy, h⟩ := h
    refine .head (.enter hq hb) ((ihy hy _).trans (.head .leave ?_))
    rw [Frame.leave_enter]
    exact ih _ h rest

lemma ends_of_run {x : Inquiry β} {rest : β → Course α} {s : α}
    (h : ReflTransGen c.Step ⟨f, x.course rest⟩ ⟨g, .done s⟩) :
    ∃ r, (c.result f x).Ends r ∧ ReflTransGen c.Step ⟨f, rest r⟩ ⟨g, .done s⟩ := by
  induction β, f, x using inquiry_induction (c := c) with
  | done β f r => exact ⟨r, .done r, h⟩
  | now β f q next p hq ih =>
    obtain h | ⟨m, hs, h⟩ := h.cases_head
    · cases h
    · obtain ⟨r, hp, rfl⟩ := step_now hq hs
      obtain ⟨t, ht, h⟩ := ih r h
      exact ⟨t, by rw [result_now hq, Dice.Plan.ends_bind]; exact ⟨r, hp, ht⟩, h⟩
  | refuse β f q next b pass e hq hb ih =>
    obtain h | ⟨m, hs, h⟩ := h.cases_head
    · cases h
    · obtain rfl := step_refused hq hb hs
      rw [result_refused hq hb]
      exact ih _ h
  | enter β f q next b pass y hq hb ihy ih =>
    obtain h | ⟨m, hs, h⟩ := h.cases_head
    · cases h
    · obtain rfl := step_entered hq hb hs
      obtain ⟨r, hr, h⟩ := ihy h
      obtain h | ⟨m, hs, h⟩ := h.cases_head
      · cases h
      · obtain rfl := step_left hs
        obtain ⟨t, ht, h⟩ := ih _ h
        exact ⟨t, by rw [result_entered hq hb, Dice.Plan.ends_bind]; exact ⟨r, hr, ht⟩, h⟩

lemma run_iff_ends {x : Inquiry α} {s : α} :
    ReflTransGen c.Step ⟨f, x.course .done⟩ ⟨g, .done s⟩ ↔ (c.carry x f).Ends (s, g) := by
  rw [carry_restores, Dice.Plan.ends_map]
  constructor
  · intro h
    obtain ⟨r, hr, h⟩ := ends_of_run h
    obtain h | ⟨m, hs, _⟩ := h.cases_head
    · cases h
      exact ⟨_, hr, rfl⟩
    · cases hs
  · rintro ⟨r, hr, h⟩
    cases h
    exact run_of_ends hr .done

lemma eq_of_ends {x : Inquiry α} {s : α} (h : (c.carry x f).Ends (s, g)) : g = f := by
  rw [carry_restores, Dice.Plan.ends_map] at h
  obtain ⟨_, _, h⟩ := h
  exact congrArg Prod.snd h

lemma not_infinite {m : Moment α} (h : c.Finishes m) :
    ¬ ∃ run : ℕ → Moment α, run 0 = m ∧ ∀ n, c.Step (run n) (run (n + 1)) :=
  fun ⟨run, h0, hs⟩ => (acc_iff_isEmpty_descending_chain.1 h).false ⟨run, h0, hs⟩

end Context

/-- Whatever was called before, and whatever the limits, a call goes through moments at which no
variable and no program is on its stack twice and all of them are defined. It comes to an end, which
is what the evaluator gives. Limits that leave room for the whole store and rulebook never cut it
off. -/
theorem calls_end (c : Context) {δ : Type} (face : δ → ℕ → ℕ × δ) (before : List Call) (d : δ)
    (call : Call) :
    let f := (c.leftBy face before {} d).1
    let opening := c.opening call f
    (∀ m, ReflTransGen c.Step opening m → m.frame.Sound c) ∧
    (¬ ∃ run : ℕ → Moment _, run 0 = opening ∧ ∀ n, c.Step (run n) (run (n + 1))) ∧
    (∀ m, ReflTransGen c.Step opening m → (∀ n, ¬ c.Step m n) →
      ∃ r, m = ⟨f, .done r⟩ ∧ (c.take call f).Ends (r, f)) ∧
    (∀ r g, (c.take call f).Ends (r, g) ↔ ReflTransGen c.Step opening ⟨g, .done r⟩) ∧
    (c.Ample → ∀ nesting limit g, ¬ (c.take call f).Ends (.error (.tooDeep nesting limit), g)) := by
  intro f opening
  have hf : f.Sound c := by
    simp only [f, c.leftBy_restores face before {} d]
    exact .new
  have hfinishes : c.Finishes opening :=
    Context.finishes_course f _ .done fun r => .intro _ fun m hs => by cases hs
  have hends (r g) : (c.take call f).Ends (r, g) ↔ ReflTransGen c.Step opening ⟨g, .done r⟩ :=
    Context.run_iff_ends.symm
  refine ⟨fun m hm => Context.sound_run hf hm, Context.not_infinite hfinishes,
    fun m hm hstuck => ?_, hends, fun hc nesting limit g h => Context.shallow_take hc hf h _ _ rfl⟩
  obtain ⟨r, hr⟩ := (Context.done_or_step m).resolve_right fun ⟨n, hn⟩ => hstuck n hn
  obtain ⟨g, rest⟩ := m
  cases hr
  have hr := (hends _ g).2 hm
  obtain rfl : g = f := Context.eq_of_ends hr
  exact ⟨_, rfl, hr⟩

namespace Termination

def own : VariableId := { name := "own" }

def tight : Context where
  rulebook := {}
  store := ⟨⟨[⟨own, "", "", ∅, .number (.variable own), []⟩], by simp⟩⟩
  limits := ⟨0, 2, 0, 0⟩

end Termination

open Termination in
theorem calls_end_tight :
    let face : Unit → ℕ → ℕ × Unit := fun d _ => (1, d)
    let f := (tight.leftBy face [.evaluate own] {} ()).1
    tight.Ample ∧ ∀ nesting limit g,
      ¬ (tight.take (.evaluate own) f).Ends (.error (.tooDeep nesting limit), g) := by
  have hample : tight.Ample := ⟨by decide, by decide, by decide⟩
  exact ⟨hample, (calls_end tight _ [.evaluate own] () (.evaluate own)).2.2.2.2 hample⟩

end Tabletop
