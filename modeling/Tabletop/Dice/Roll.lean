import Tabletop.Sorted
import Tabletop.Decimal.Layout

namespace Tabletop.Dice

def addUp (f : α → Int) : List α → Int
  | [] => 0
  | a :: as => f a + addUp f as

structure Quantity where
  sides : Int32
  count : Int32
  deriving DecidableEq

structure Modifier where
  value : Float
  name : Option String := none
  deriving DecidableEq

namespace Quantity

def order : Quantity → Quantity → Ordering := compareLex (compareOn sides) (compareOn count)

instance : Std.TransCmp order := inferInstanceAs (Std.TransCmp (compareLex _ _))

def IsValid (q : Quantity) : Prop := 1 ≤ q.sides ∧ 0 ≤ q.count

instance (q : Quantity) : Decidable q.IsValid := inferInstanceAs (Decidable (_ ∧ _))

def text (q : Quantity) : String := toString q.count.toInt ++ "d" ++ toString q.sides.toInt

end Quantity

namespace Modifier

/-- The place of a number among all numbers: negative zero comes before zero, and what is not a
number after positive infinity. -/
def rank (x : Float) : Int :=
  let bits := x.toBits.toInt64.toInt
  if 0 ≤ bits then bits else Int64.minValue.toInt - 1 - bits

def order : Modifier → Modifier → Ordering :=
  compareLex (compareOn fun m => rank m.value) (compareOn name)

instance : Std.TransCmp order := inferInstanceAs (Std.TransCmp (compareLex _ _))

end Modifier

inductive Fault where
  | invalid (quantity : Quantity)
  | tooMany (count : Int) (limit : UInt64)
  deriving DecidableEq

def Fault.message : Fault → String
  | invalid q => "Invalid dice: " ++ q.text
  | tooMany count limit =>
    "Roll needs " ++ toString count ++ " dice, at most " ++ toString limit.toNat ++ " are allowed"

structure Roll where
  quantities : Sorted Quantity Quantity.order := ∅
  modifiers : Sorted Modifier Modifier.order := ∅
  name : Option String := none
  deriving DecidableEq

namespace Roll

def addDice (r : Roll) (count sides : Int32) : Roll :=
  { r with quantities := r.quantities.insert ⟨sides, count⟩ }

def addModifier (r : Roll) (value : Float) (name : Option String) : Roll :=
  { r with modifiers := r.modifiers.insert ⟨value, name⟩ }

/-- The sum of no numbers is negative zero, which adding any number to leaves that number. -/
def modifierTotal (r : Roll) : Float := (r.modifiers.toList.map Modifier.value).foldl (· + ·) (-0.0)

def diceCount (r : Roll) : Int := addUp (·.count.toInt) r.quantities.toList

def fault? (r : Roll) : Option Fault :=
  (r.quantities.toList.find? fun q => ¬ q.IsValid).map .invalid

def lowest (r : Roll) : Int := r.diceCount

def highest (r : Roll) : Int :=
  addUp (fun q => q.count.toInt * q.sides.toInt) r.quantities.toList

def range (r : Roll) : Except Fault (Float × Float) :=
  match r.fault? with
  | some f => .error f
  | none => .ok (Float.ofInt r.lowest + r.modifierTotal, Float.ofInt r.highest + r.modifierTotal)

def text (r : Roll) : String :=
  let m := r.modifierTotal
  if r.quantities.toList.isEmpty then Text.number m
  else
    let dice := "+".intercalate (r.quantities.toList.map Quantity.text)
    if m == 0 then dice
    else if 0 < m then dice ++ "+" ++ Text.number m
    else dice ++ "-" ++ Text.number m.abs

end Roll

end Tabletop.Dice
