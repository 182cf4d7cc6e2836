import Tabletop.Dice.Plan
import Tabletop.Dice.Roll

namespace Tabletop.Dice

structure Component where
  quantity : Quantity
  faces : List Nat
  subtotal : Int
  deriving DecidableEq

structure Throw where
  components : List Component
  modifier : Float
  total : Float
  deriving DecidableEq

namespace Quantity

def throw (q : Quantity) : Plan Component := do
  let faces ← Plan.draws q.sides.toNatClampNeg q.count.toNatClampNeg
  return ⟨q, faces, addUp Int.ofNat faces⟩

def throwAll : List Quantity → Plan (List Component)
  | [] => return []
  | q :: qs => do return (← q.throw) :: (← throwAll qs)

end Quantity

namespace Roll

def usualLimit : UInt64 := 10000

/-- Draws the dice size by size, smallest first. Nothing is drawn for a roll that is not valid or
needs more dice than the limit, read as a signed word. -/
def throw (r : Roll) (limit : UInt64) : ExceptT Fault Plan Throw :=
  match r.fault? with
  | some f => throwThe Fault f
  | none =>
    if limit.toInt64.toInt < r.diceCount then throwThe Fault (.tooMany r.diceCount limit)
    else do
      let components ← Quantity.throwAll r.quantities.toList
      let dice := addUp Component.subtotal components
      return ⟨components, r.modifierTotal, Float.ofInt dice + r.modifierTotal⟩

def total (r : Roll) (limit : UInt64) : ExceptT Fault Plan Float := Throw.total <$> r.throw limit

end Roll

namespace Component

def text (c : Component) : String := "[" ++ ", ".intercalate (c.faces.map toString) ++ "]"

end Component

namespace Throw

def diceText (t : Throw) : String :=
  let dice := " + ".intercalate (t.components.map Component.text)
  if t.modifier == 0 then dice
  else if dice.isEmpty then Text.number t.modifier
  else if 0 < t.modifier then dice ++ " + " ++ Text.number t.modifier
  else dice ++ " - " ++ Text.number t.modifier.abs

def text (t : Throw) : String := t.diceText ++ " = " ++ Text.number t.total

end Throw

end Tabletop.Dice
