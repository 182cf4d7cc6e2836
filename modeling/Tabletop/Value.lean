import Tabletop.Dice.Roll

/-!
Values that rules compute. A type check compares tags: a number is never read as text.
-/

namespace Tabletop

inductive ValueType where
  | number
  | text
  | boolean
  | diceRoll
  | listText
  deriving DecidableEq

namespace ValueType

def all : List ValueType := [number, text, boolean, diceRoll, listText]

def name : ValueType → String
  | number => "number"
  | text => "text"
  | boolean => "boolean"
  | diceRoll => "dice_roll"
  | listText => "list_text"

def label : ValueType → String
  | number => "Number"
  | text => "Text"
  | boolean => "Boolean"
  | diceRoll => "Dice Roll"
  | listText => "List Text"

def ofName? (s : String) : Option ValueType := all.find? (·.name = s)

def unknownMessage (s : String) : String := "Unknown engine value type: " ++ s

theorem ofName?_name (t : ValueType) : ofName? t.name = some t := by cases t <;> rfl

end ValueType

inductive Value where
  | number (x : Float)
  | text (s : String)
  | boolean (b : Bool)
  | diceRoll (r : Dice.Roll)
  | listText (items : List String)
  deriving DecidableEq

structure Mismatch where
  expected : ValueType
  found : ValueType
  deriving DecidableEq

namespace Value

def type : Value → ValueType
  | number _ => .number
  | text _ => .text
  | boolean _ => .boolean
  | diceRoll _ => .diceRoll
  | listText _ => .listText

/-- Numbers are equal as numbers: zero equals negative zero, and what is not a number equals
nothing. -/
def same : Value → Value → Bool
  | number x, number y => x == y
  | text s, text t => s = t
  | boolean a, boolean b => a = b
  | diceRoll r, diceRoll s => r = s
  | listText xs, listText ys => xs = ys
  | _, _ => false

instance : BEq Value := ⟨same⟩

def expect (v : Value) (expected : ValueType) : Except Mismatch Value :=
  if v.type = expected then .ok v else .error ⟨expected, v.type⟩

def toNumber : Value → Except Mismatch Float
  | number x => .ok x
  | v => .error ⟨.number, v.type⟩

def toText : Value → Except Mismatch String
  | text s => .ok s
  | v => .error ⟨.text, v.type⟩

def toBoolean : Value → Except Mismatch Bool
  | boolean b => .ok b
  | v => .error ⟨.boolean, v.type⟩

def toDiceRoll : Value → Except Mismatch Dice.Roll
  | diceRoll r => .ok r
  | v => .error ⟨.diceRoll, v.type⟩

def shown : Value → String
  | number x => Text.number x
  | text s => s
  | boolean b => if b then "true" else "false"
  | diceRoll r => r.text
  | listText items => ", ".intercalate items

end Value

end Tabletop
