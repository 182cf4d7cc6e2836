import Mathlib.Data.Nat.Notation
import Mathlib.Tactic.Common

namespace Tabletop

namespace Decimal

open Float.Model

/-- What counts when a number is compared: of a zero, not even the sign. -/
inductive Weight where
  | infinity (s : UnpackedFloat.Sign)
  | notANumber
  | zero
  | finite (s : UnpackedFloat.Sign) (m : ℕ) (e : Int)

def weight : UnpackedFloat → Weight
  | .infinity s => .infinity s
  | .notANumber => .notANumber
  | .zero _ => .zero
  | .finite s m e _ => .finite s m e

lemma compare_weight {s : UnpackedFloat.Sign} {m n : ℕ} {e f : Int} :
    (some ((compare e f).then (compare m n)) == some .eq) = true ↔
      Weight.finite s m e = .finite s n f ∧ Weight.finite s m e ≠ .notANumber := by
  simp [Ordering.then_eq_eq, and_comm]

lemma swap_compare_weight {s : UnpackedFloat.Sign} {m n : ℕ} {e f : Int} :
    (some ((compare e f).then (compare m n)).swap == some .eq) = true ↔
      Weight.finite s m e = .finite s n f ∧ Weight.finite s m e ≠ .notANumber := by
  rw [← compare_weight]
  cases (compare e f).then (compare m n) <;> decide

lemma beq_iff_weight {u v : UnpackedFloat} :
    u.beq v = true ↔ weight u = weight v ∧ weight u ≠ .notANumber := by
  change (u.compare v == some .eq) = true ↔ _
  rcases u with ⟨_ | _⟩ | _ | _ | ⟨_ | _, m, e, hm⟩ <;>
    rcases v with ⟨_ | _⟩ | _ | _ | ⟨_ | _, n, f, hn⟩ <;>
    first
      | exact compare_weight
      | exact swap_compare_weight
      | exact iff_of_true rfl ⟨rfl, by rintro ⟨⟩⟩
      | exact iff_of_false (by rintro ⟨⟩) fun h => h.2 rfl
      | exact iff_of_false (by rintro ⟨⟩) (by rintro ⟨⟨⟩, _⟩)

variable {x y z : Float}

lemma beq_iff : (x == y) = true ↔
    weight x.toModel.unpack = weight y.toModel.unpack ∧
      weight x.toModel.unpack ≠ .notANumber := beq_iff_weight

lemma beq_self (h : x.isNaN = false) : (x == x) = true := by
  refine beq_iff.2 ⟨rfl, fun hx => ?_⟩
  change x.toModel.unpack.isNaN = false at h
  cases hu : x.toModel.unpack with
  | notANumber =>
    rw [hu] at h
    cases h
  | infinity | zero | finite =>
    rw [hu] at hx
    cases hx

lemma beq_symm (h : (x == y) = true) : (y == x) = true := by
  obtain ⟨heq, hx⟩ := beq_iff.1 h
  exact beq_iff.2 ⟨heq.symm, heq ▸ hx⟩

lemma beq_trans (h : (x == y) = true) (h' : (y == z) = true) : (x == z) = true := by
  obtain ⟨heq, hx⟩ := beq_iff.1 h
  exact beq_iff.2 ⟨heq.trans (beq_iff.1 h').1, hx⟩

end Decimal

end Tabletop
