import Mathlib.Data.Nat.Notation
import Mathlib.Tactic.Common
import Tabletop.Dice.Plan

namespace Tabletop.Dice.Plan

variable {α β δ : Type}

inductive Ends : Plan α → α → Prop
  | done (a : α) : Ends (done a) a
  | draw {sides : ℕ} {next : ℕ → Plan α} {a : α} (face : ℕ) :
      Ends (next face) a → Ends (draw sides next) a

@[simp] lemma ends_done {a b : α} : Ends (done a) b ↔ b = a :=
  ⟨fun h => by cases h; rfl, fun h => h ▸ .done b⟩

@[simp] lemma ends_draw {sides : ℕ} {next : ℕ → Plan α} {a : α} :
    Ends (draw sides next) a ↔ ∃ face, Ends (next face) a :=
  ⟨fun h => by cases h with | draw face h => exact ⟨face, h⟩, fun ⟨face, h⟩ => .draw face h⟩

@[simp] lemma ends_bind {p : Plan α} {f : α → Plan β} {b : β} :
    Ends (p >>= f) b ↔ ∃ a, Ends p a ∧ Ends (f a) b := by
  induction p with
  | done a => simp
  | draw sides next ih =>
    simp only [draw_bind, ends_draw, ih]
    exact exists_comm.trans (by simp only [exists_and_right])

@[simp] lemma ends_map {p : Plan α} {f : α → β} {b : β} :
    Ends (f <$> p) b ↔ ∃ a, Ends p a ∧ b = f a := by
  rw [map_eq_pure_bind, ends_bind]
  simp only [pure_eq, ends_done]

/-- What a plan does when `face state sides` are the next face of a source and the state in which
that leaves it: the end it comes to, the dice it asks for, and the last state. -/
def play (face : δ → ℕ → ℕ × δ) : Plan α → δ → (α × List ℕ) × δ
  | done a, d => ((a, []), d)
  | draw sides next, d =>
    let (n, d) := face d sides
    let ((a, asked), d) := (next n).play face d
    ((a, sides :: asked), d)

lemma play_bind (face : δ → ℕ → ℕ × δ) (p : Plan α) (f : α → Plan β) (d : δ) :
    (p >>= f).play face d =
      let ((a, asked), d) := p.play face d
      let ((b, more), d) := (f a).play face d
      ((b, asked ++ more), d) := by
  induction p generalizing d with
  | done a => rfl
  | draw sides next ih => simp only [draw_bind, play, ih, List.cons_append]

lemma play_map (face : δ → ℕ → ℕ × δ) (p : Plan α) (f : α → β) (d : δ) :
    (f <$> p).play face d =
      let ((a, asked), d) := p.play face d
      ((f a, asked), d) := by
  rw [map_eq_pure_bind, play_bind]
  simp [play]

lemma ends_play (face : δ → ℕ → ℕ × δ) (p : Plan α) (d : δ) : p.Ends (p.play face d).1.1 := by
  induction p generalizing d with
  | done a => exact .done a
  | draw sides next ih => exact .draw _ (ih _ _)

lemma exists_ends (p : Plan α) : ∃ a, p.Ends a :=
  ⟨_, p.ends_play (fun (_ : Unit) _ => (1, ())) ()⟩

/-- The first plan is the second one, broken off wherever it comes to an end that is in `cut`. -/
inductive BrokenOff (cut : α → Prop) : Plan α → Plan α → Prop
  | cut {a : α} {q : Plan α} : cut a → BrokenOff cut (done a) q
  | done (a : α) : BrokenOff cut (done a) (done a)
  | draw {sides : ℕ} {next next' : ℕ → Plan α} : (∀ face, BrokenOff cut (next face) (next' face)) →
      BrokenOff cut (draw sides next) (draw sides next')

namespace BrokenOff

variable {cut : α → Prop} {p q : Plan α}

lemma refl (p : Plan α) : BrokenOff cut p p := by
  induction p with
  | done a => exact .done a
  | draw sides next ih => exact .draw ih

lemma bind {cut' : β → Prop} {f g : α → Plan β} (h : BrokenOff cut p q)
    (hcut : ∀ a, cut a → ∃ b, cut' b ∧ f a = Plan.done b)
    (hf : ∀ a, BrokenOff cut' (f a) (g a)) : BrokenOff cut' (p >>= f) (q >>= g) := by
  induction h with
  | cut ha =>
    obtain ⟨b, hb, hfa⟩ := hcut _ ha
    rw [done_bind, hfa]
    exact .cut hb
  | done a => exact hf a
  | draw _ ih => exact .draw ih

lemma play_eq (h : BrokenOff cut p q) {face : δ → ℕ → ℕ × δ} {d : δ}
    (hp : ¬ cut (p.play face d).1.1) : q.play face d = p.play face d := by
  induction h generalizing d with
  | cut ha => exact absurd ha hp
  | done a => rfl
  | draw _ ih => simp only [play, ih _ hp]

end BrokenOff

end Tabletop.Dice.Plan
