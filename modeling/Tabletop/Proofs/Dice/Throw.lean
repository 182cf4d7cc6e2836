import Mathlib.Algebra.BigOperators.Ring.List
import Tabletop.Proofs.Decimal.Scientific
import Tabletop.Proofs.Dice.Limit
import Tabletop.Proofs.Plans

namespace Tabletop

namespace Dice

namespace Plan

variable {δ : Type} {face : δ → ℕ → ℕ × δ}

/-- The faces that a source gives for these dice, one after another, and the state in which that
leaves it. -/
def serve (face : δ → ℕ → ℕ × δ) : List ℕ → δ → List ℕ × δ
  | [], d => ([], d)
  | sides :: dice, d =>
    let (n, d) := face d sides
    let (ns, d) := serve face dice d
    (n :: ns, d)

lemma serve_append (dice more : List ℕ) (d : δ) : serve face (dice ++ more) d =
    ((serve face dice d).1 ++ (serve face more (serve face dice d).2).1,
      (serve face more (serve face dice d).2).2) := by
  induction dice generalizing d with
  | nil => rfl
  | cons sides dice ih => simp only [List.cons_append, serve, ih]

lemma length_serve (dice : List ℕ) (d : δ) : (serve face dice d).1.length = dice.length := by
  induction dice generalizing d with
  | nil => rfl
  | cons sides dice ih => simp only [serve, List.length_cons, ih]

lemma play_draws (sides n : ℕ) (d : δ) : (draws sides n).play face d =
    (((serve face (.replicate n sides) d).1, .replicate n sides),
      (serve face (.replicate n sides) d).2) := by
  induction n generalizing d with
  | zero => rfl
  | succ n ih => simp only [draws, play, play_bind, ih, List.replicate_succ, serve, pure_eq,
      List.append_nil]

/-- A source whose faces lie between these bounds, which depend on the sides of the die. -/
def Between (low high : ℕ → ℕ) (face : δ → ℕ → ℕ × δ) : Prop :=
  ∀ d sides, 1 ≤ sides → low sides ≤ (face d sides).1 ∧ (face d sides).1 ≤ high sides

lemma Between.serve_replicate {low high : ℕ → ℕ} (h : Between low high face) {sides : ℕ}
    (hsides : 1 ≤ sides) (k : ℕ) (d : δ) :
    ∀ n ∈ (serve face (.replicate k sides) d).1, low sides ≤ n ∧ n ≤ high sides := by
  induction k generalizing d with
  | zero => nofun
  | succ k ih =>
    rw [List.replicate_succ]
    exact List.forall_mem_cons.2 ⟨h d sides hsides, ih _⟩

end Plan

open Plan

namespace Quantity

variable {δ : Type} {face : δ → ℕ → ℕ × δ} {low high : ℕ → ℕ} {q : Quantity} {c : Component}

def dice (q : Quantity) : List ℕ := .replicate q.count.toNatClampNeg q.sides.toNatClampNeg

/-- A component that has been thrown for a quantity, with faces between these bounds. -/
structure Gets (low high : ℕ → ℕ) (q : Quantity) (c : Component) : Prop where
  quantity : c.quantity = q
  length : (c.faces.length : ℤ) = q.count.toInt
  faces : ∀ n ∈ c.faces, low q.sides.toNatClampNeg ≤ n ∧ n ≤ high q.sides.toNatClampNeg
  subtotal : c.subtotal = (c.faces.map Int.ofNat).sum

lemma toInt_sides (h : q.IsValid) : (q.sides.toNatClampNeg : ℤ) = q.sides.toInt := by
  have hpos := (isValid_iff.1 h).1
  exact Int.toNat_of_nonneg (by omega)

lemma toInt_count (h : q.IsValid) : (q.count.toNatClampNeg : ℤ) = q.count.toInt :=
  Int.toNat_of_nonneg (isValid_iff.1 h).2

lemma play_throw (h : Between low high face) (hq : q.IsValid) (d : δ) : ∃ c,
    q.throw.play face d = ((c, q.dice), (serve face q.dice d).2) ∧
      c.faces = (serve face q.dice d).1 ∧ q.Gets low high c := by
  have hsides := toInt_sides hq
  have hvalid := (isValid_iff.1 hq).1
  refine ⟨⟨q, (serve face q.dice d).1, addUp Int.ofNat (serve face q.dice d).1⟩, ?_, rfl, rfl, ?_,
    h.serve_replicate (by omega) _ d, addUp_eq _ _⟩
  · rw [throw, play_bind, play_draws]
    simp only [pure_eq, play, List.append_nil]
    rfl
  · rw [length_serve, dice, List.length_replicate]
    exact toInt_count hq

lemma play_throwAll (h : Between low high face) {qs : List Quantity} (hqs : ∀ q ∈ qs, q.IsValid)
    (d : δ) : ∃ cs, (throwAll qs).play face d =
        ((cs, qs.flatMap dice), (serve face (qs.flatMap dice) d).2) ∧
      cs.flatMap Component.faces = (serve face (qs.flatMap dice) d).1 ∧
      List.Forall₂ (Gets low high) qs cs := by
  induction qs generalizing d with
  | nil => exact ⟨[], rfl, rfl, .nil⟩
  | cons q qs ih =>
    obtain ⟨hq, hqs⟩ := List.forall_mem_cons.1 hqs
    obtain ⟨c, hc, hfaces, hgets⟩ := play_throw h hq d
    obtain ⟨cs, hcs, hrest, hall⟩ := ih hqs (serve face q.dice d).2
    refine ⟨c :: cs, ?_, ?_, .cons hgets hall⟩
    · rw [throwAll, play_bind, hc]
      simp only [play_bind, hcs, pure_eq, play, List.append_nil, List.flatMap_cons, serve_append]
    · rw [List.flatMap_cons, List.flatMap_cons, serve_append, hfaces, hrest]

end Quantity

namespace Roll

variable {δ : Type} {face : δ → ℕ → ℕ × δ} {low high : ℕ → ℕ} {r : Roll} {limit : UInt64}
  {cs : List Component}

def dice (r : Roll) : List ℕ := r.quantities.toList.flatMap Quantity.dice

/-- What a roll with these faces comes to. -/
structure Shows (r : Roll) (faces : List ℕ) (t : Throw) : Prop where
  quantities : t.components.map Component.quantity = r.quantities.toList
  faces : t.components.flatMap Component.faces = faces
  counts : ∀ c ∈ t.components, (c.faces.length : ℤ) = c.quantity.count.toInt
  subtotals : ∀ c ∈ t.components, Word.sum? (c.faces.map Int.ofNat) = some c.subtotal
  sum : Word.sum? (t.components.map Component.subtotal) =
    some (addUp Component.subtotal t.components)
  total : t.total = Float.ofInt (addUp Component.subtotal t.components) + r.modifierTotal
  lowest : Word.sum? (r.quantities.toList.map (·.count.toInt)) = some r.lowest
  highest : Word.sum? (r.quantities.toList.map fun q => q.count.toInt * q.sides.toInt) =
    some r.highest
  lowest_le : r.lowest ≤ addUp Component.subtotal t.components
  le_highest : addUp Component.subtotal t.components ≤ r.highest
  range : ∀ low high, r.range = .ok (low, high) → r.modifierTotal.isNaN = false →
    low ≤ t.total ∧ t.total ≤ high

lemma play_throw (h : Between low high face) (hr : r.fault? = none)
    (hcount : r.diceCount ≤ limit.toInt64.toInt) (d : δ) : ∃ cs,
      (r.throw limit).run.play face d =
        ((.ok (r.outcome cs), r.dice), (serve face r.dice d).2) ∧
      cs.flatMap Component.faces = (serve face r.dice d).1 ∧
      List.Forall₂ (Quantity.Gets low high) r.quantities.toList cs := by
  obtain ⟨cs, hplay, hfaces, hgets⟩ := Quantity.play_throwAll h (fault?_eq_none.1 hr) d
  refine ⟨cs, ?_, hfaces, hgets⟩
  rw [run_throw_ok hr hcount, play_bind, hplay]
  simp only [play, List.append_nil]
  rfl

end Roll

open Roll

end Dice

end Tabletop
