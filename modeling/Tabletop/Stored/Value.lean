import Tabletop.Stored.Dice
import Tabletop.Value

namespace Tabletop

namespace ValueType

def toJson (t : ValueType) : Json := .text t.name

def ofJson? (j : Json) : Option ValueType := j.case?.bind ofName?

end ValueType

namespace Value

def toJson : Value → Json
  | number x => .tagged "type" "value" "number" (.float x)
  | text s => .tagged "type" "value" "text" (.text s)
  | boolean b => .tagged "type" "value" "boolean" (.bool b)
  | diceRoll r => .tagged "type" "value" "dice_roll" r.toJson
  | listText items => .tagged "type" "value" "list_text" (.list (items.map .text))

def ofJson? (j : Json) : Option Value := do
  let (type, content) ← j.tagged? "type" "value"
  let held ← content
  match ← ValueType.ofName? type with
  | .number => return number (← held.float?)
  | .text => return text (← held.text?)
  | .boolean => return boolean (← held.bool?)
  | .diceRoll => return diceRoll (← Dice.Roll.ofJson? held)
  | .listText => return listText (← held.listOf? Json.text?)

end Value

end Tabletop
