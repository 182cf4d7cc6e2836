import Tabletop.Evaluation.Call
import Tabletop.Proofs.Plans

namespace Tabletop

variable {α β : Type} {c : Context} {q : Request}

section Follow

variable {out : Activity → Dice.Plan Outcome} {next : Except RuleError q.Answer → Inquiry α}

lemma Inquiry.follow_now {p : Dice.Plan (Except RuleError q.Answer)} (h : c.reply q = .now p) :
    (ask q next).follow c out = p >>= fun r => (next r).follow c out := by
  simp only [follow, h, liftM, monadLift_self]

lemma Inquiry.follow_enter {b : Activity} {pass : Outcome → Except RuleError q.Answer}
    (h : c.reply q = .enter b pass) :
    (ask q next).follow c out = out b >>= fun r => (next (pass r)).follow c out := by
  simp only [follow, h]

lemma Inquiry.follow_bind (x : Inquiry α) (g : α → Inquiry β) :
    (x >>= g).follow c out = x.follow c out >>= fun r => (g r).follow c out := by
  induction x with
  | done r => rfl
  | ask q next ih =>
    rw [ask_bind]
    cases h : c.reply q with
    | now p => rw [follow_now h, follow_now h, Dice.Plan.bind_assoc]; simp only [ih]
    | enter b pass => rw [follow_enter h, follow_enter h, Dice.Plan.bind_assoc]; simp only [ih]

lemma Inquiry.follow_restores {S : Type} {enter : Activity → StateT S Dice.Plan Outcome} {s : S}
    (hs : ∀ b, enter b s = (·, s) <$> out b) (x : Inquiry α) :
    x.follow c enter s = (·, s) <$> x.follow c out := by
  induction x with
  | done r => rfl
  | ask q next ih =>
    cases h : c.reply q with
    | now p =>
      rw [follow_now h, map_bind, follow]
      simp only [h]
      change (p >>= fun r => pure (r, s)) >>= (fun rs => (next rs.1).follow c enter rs.2) = _
      simp only [Dice.Plan.bind_assoc, pure_bind, ih]
    | enter b pass =>
      rw [follow_enter h, map_bind, follow]
      simp only [h]
      change enter b s >>= (fun rs => (next (pass rs.1)).follow c enter rs.2) = _
      simp only [hs, bind_map_left, ih]

end Follow

namespace Context

def outcome (c : Context) (f : Frame) (a : Activity) : Dice.Plan Outcome :=
  (c.perform f a).run' (f.within c)

def result (c : Context) (f : Frame) (x : Inquiry α) : Dice.Plan α := x.follow c (c.outcome f)

/-- An activity that starts leaves less room: what is claimed of an activity may be assumed of
those that it asks for. -/
lemma activity_induction {motive : Frame → Activity → Prop}
    (step : ∀ f a, (∀ x, c.start f a = .ok x → ∀ b, motive (f.enter a) b) → motive f a) (f : Frame)
    (a : Activity) : motive f a := by
  induction hr : f.room c using Nat.strongRecOn generalizing f a with
  | _ n ih =>
    refine step f a fun x hx b => ?_
    exact ih _ (hr ▸ room_enter_lt hx) (f.enter a) b rfl

lemma perform_refused {bound : Frame} {f : c.Within bound} {a : Activity} {e : RuleError}
    (h : c.start f.val a = .error e) : c.perform bound a f = .done (.error e, f) := by
  rw [perform]
  split
  · simp_all
  · simp_all

lemma perform_started {bound : Frame} {f : c.Within bound} {a : Activity} {x : Inquiry Outcome}
    (h : c.start f.val a = .ok x) :
    ∃ hroom : ∀ g : c.Within (f.val.enter a), (g.val.leave a).room c ≤ bound.room c,
      c.perform bound a f = x.follow c (c.perform (f.val.enter a)) ((f.val.enter a).within c) >>=
        fun r => .done (r.1, ⟨r.2.val.leave a, hroom r.2⟩) := by
  have hlt := Nat.lt_of_lt_of_le (room_enter_lt h) f.property
  refine ⟨fun g => ?_, ?_⟩
  · exact Nat.le_trans (Frame.room_leave_le _ c a) (Nat.le_trans (Nat.succ_le_succ g.property) hlt)
  · rw [perform]
    split
    · simp_all
    · rename_i y hy
      obtain rfl : x = y := by simp_all
      rfl

lemma outcome_refused {f : Frame} {a : Activity} {e : RuleError} (h : c.start f a = .error e) :
    c.outcome f a = .done (.error e) := by
  rw [outcome, StateT.run', perform_refused h]
  rfl

lemma perform_restores (bound f : Frame) (hf : f.room c ≤ bound.room c) (a : Activity) :
    c.perform bound a ⟨f, hf⟩ = (·, ⟨f, hf⟩) <$> c.outcome f a := by
  induction f, a using activity_induction (c := c) generalizing bound with
  | step f a ih =>
    cases hx : c.start f a with
    | error e =>
      rw [outcome_refused hx, perform_refused hx]
      rfl
    | ok x =>
      have hrestores := Inquiry.follow_restores (c := c)
        (fun b => ih x hx b _ (Nat.le_refl ((f.enter a).room c))) x
      obtain ⟨_, hp⟩ := perform_started (f := ⟨f, hf⟩) hx
      obtain ⟨_, ho⟩ := perform_started (f := f.within c) hx
      rw [outcome, StateT.run', hp, ho, hrestores]
      simp only [bind_map_left, Frame.leave_enter, map_bind]
      rfl

lemma outcome_started {f : Frame} {a : Activity} {x : Inquiry Outcome} (h : c.start f a = .ok x) :
    c.outcome f a = c.result (f.enter a) x := by
  obtain ⟨_, hp⟩ := perform_started (f := f.within c) h
  rw [outcome, StateT.run', hp,
    Inquiry.follow_restores fun b => perform_restores _ _ (Nat.le_refl ((f.enter a).room c)) b]
  simp only [bind_map_left, map_bind]
  exact Dice.Plan.bind_done _

lemma carry_restores (f : Frame) (x : Inquiry α) : c.carry x f = (·, f) <$> c.result f x := by
  rw [carry, Inquiry.follow_restores fun b => perform_restores _ _ (Nat.le_refl (f.room c)) b]
  simp only [bind_map_left, result]
  rfl

@[simp] lemma result_done (f : Frame) (r : α) : c.result f (.done r) = .done r := rfl

section Ask

variable {f : Frame} {next : Except RuleError q.Answer → Inquiry α} {b : Activity}
  {pass : Outcome → Except RuleError q.Answer}

lemma result_now {p : Dice.Plan (Except RuleError q.Answer)} (hq : c.reply q = .now p) :
    c.result f (.ask q next) = p >>= fun r => c.result f (next r) := Inquiry.follow_now hq

lemma result_refused {e : RuleError} (hq : c.reply q = .enter b pass)
    (hb : c.start f b = .error e) :
    c.result f (.ask q next) = c.result f (next (pass (.error e))) := by
  rw [result, Inquiry.follow_enter hq, outcome_refused hb]
  rfl

lemma result_entered {y : Inquiry Outcome} (hq : c.reply q = .enter b pass)
    (hb : c.start f b = .ok y) :
    c.result f (.ask q next) = c.result (f.enter b) y >>= fun r => c.result f (next (pass r)) := by
  rw [result, Inquiry.follow_enter hq, outcome_started hb]
  rfl

end Ask

lemma result_bind (f : Frame) (x : Inquiry α) (g : α → Inquiry β) :
    c.result f (x >>= g) = c.result f x >>= fun r => c.result f (g r) := x.follow_bind g

lemma result_enter (f : Frame) (a : Activity) :
    c.result f (Evaluation.enter a).run = c.outcome f a :=
  (Inquiry.follow_enter rfl).trans (Dice.Plan.bind_done _)

lemma fresh_eq (x : Inquiry α) : c.fresh x = c.result {} x := by
  rw [fresh, StateT.run', carry_restores]
  simp only [Functor.map_map, id_map']

end Context

end Tabletop
