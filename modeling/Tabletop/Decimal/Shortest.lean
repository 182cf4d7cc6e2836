/-!
Decimal digits of a binary number: the fewest that still read back as the same number, and of
those the closest to it.
-/

namespace Tabletop.Decimal

/-- The number `mantissa * 2 ^ exponent`. Below a power of two the numbers lie twice as close as
above it; `narrow` marks such a power. -/
structure Binary where
  mantissa : Nat
  exponent : Int
  narrow : Bool
  deriving DecidableEq

def Binary.ofBits (bits : UInt64) : Binary :=
  let scale := ((bits >>> 52) &&& 0x7FF).toNat
  let fraction := (bits &&& 0xFFFFFFFFFFFFF).toNat
  if scale = 0 then ⟨fraction, -1074, false⟩
  else ⟨0x10000000000000 + fraction, scale - 1075, fraction = 0 ∧ 1 < scale⟩

structure Digits where
  digits : Nat
  exponent : Int
  deriving DecidableEq

inductive Tie where
  | up
  | even

def compareScaled (a : Nat) (i : Int) (b : Nat) (j : Int) : Ordering :=
  compare (a * Nat.pow 10 i.toNat * Nat.pow 2 (-j).toNat)
    (b * Nat.pow 2 j.toNat * Nat.pow 10 (-i).toNat)

/-- The decimal lies among the reals that round to `x`: between the halfway points to its two
neighbours, which belong to it when its mantissa is even. -/
def Binary.readsBack (x : Binary) (d : Digits) : Bool :=
  let below := if x.narrow then 4 * x.mantissa - 1 else 4 * x.mantissa - 2
  let above := 4 * x.mantissa + 2
  let closed := x.mantissa % 2 = 0
  let low := compareScaled d.digits d.exponent below (x.exponent - 2)
  let high := compareScaled d.digits d.exponent above (x.exponent - 2)
  (low = .gt ∨ (closed ∧ low = .eq)) ∧ (high = .lt ∨ (closed ∧ high = .eq))

def width (n : Nat) : Nat := if n = 0 then 0 else width (n / 10) + 1
termination_by n

def Binary.quotient (x : Binary) : Nat × Nat :=
  (x.mantissa * Nat.pow 2 x.exponent.toNat, Nat.pow 2 (-x.exponent).toNat)

def Binary.scale (x : Binary) : Int :=
  let (num, den) := x.quotient
  if den ≤ num then width (num / den) else 1 - width ((den - 1) / num)

def Binary.onGrid? (x : Binary) (tie : Tie) (exponent : Int) : Option Digits :=
  let (num, den) := x.quotient
  let num := num * Nat.pow 10 (-exponent).toNat
  let den := den * Nat.pow 10 exponent.toNat
  let lower := num / den
  match x.readsBack ⟨lower, exponent⟩, x.readsBack ⟨lower + 1, exponent⟩ with
  | true, false => some ⟨lower, exponent⟩
  | false, true => some ⟨lower + 1, exponent⟩
  | false, false => none
  | true, true =>
    match compare (2 * (num % den)) den, tie with
    | .lt, _ => some ⟨lower, exponent⟩
    | .gt, _ => some ⟨lower + 1, exponent⟩
    | .eq, .up => some ⟨lower + 1, exponent⟩
    | .eq, .even => some ⟨lower + lower % 2, exponent⟩

def Binary.exact (x : Binary) : Digits :=
  ⟨x.mantissa * Nat.pow 2 x.exponent.toNat * Nat.pow 5 (-x.exponent).toNat, min x.exponent 0⟩

def Digits.strip (d : Digits) : Digits :=
  if 0 < d.digits ∧ d.digits % 10 = 0 then Digits.strip ⟨d.digits / 10, d.exponent + 1⟩ else d
termination_by d.digits
decreasing_by omega

def Binary.shortest (x : Binary) (tie : Tie) : Digits :=
  let found := (List.range 17).findSome? fun n => x.onGrid? tie (x.scale - (n + 1 : Nat))
  (found.getD x.exact).strip

def Binary.whole? (x : Binary) : Option Nat :=
  let (num, den) := x.quotient
  if num % den = 0 then some (num / den) else none

def whole? (x : Float) : Option Int :=
  if x.isFinite then
    (Binary.ofBits x.toBits).whole?.map fun n => if x < 0 then -(n : Int) else n
  else none

end Tabletop.Decimal
