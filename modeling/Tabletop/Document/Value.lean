import Tabletop.Document.Node
import Tabletop.Dice.Expression

namespace Tabletop

open Document (Node Decoded)

namespace ValueType

def decode (n : Node) : Decoded ValueType := do
  let s ← n.text
  match ofName? s with
  | some t => return t
  | none => n.unexpectedValue ("'" ++ s ++ "'")

end ValueType

namespace Dice

namespace Quantity

def decode (n : Node) : Decoded Quantity := do
  let sides ← (← n.child "sides").int32
  return ⟨sides, ← (← n.child "quantity").int32⟩

end Quantity

namespace Modifier

def decode (n : Node) : Decoded Modifier := do
  let value ← (← n.child "value").number
  return ⟨value, ← n.maybeTextAt "name"⟩

end Modifier

namespace Roll

def decodeRecord (n : Node) : Decoded Roll := do
  let quantities ← n.listAt Quantity.decode "quantities"
  let modifiers ← n.listAt Modifier.decode "modifiers"
  let r : Roll := ⟨.ofList quantities, .ofList modifiers, ← n.maybeTextAt "name"⟩
  match r.fault? with
  | some f => n.unexpectedValue f.message
  | none => return r

def decode (n : Node) : Decoded Roll :=
  match n.json with
  | .text s =>
    match Roll.parse s with
    | .ok r => .ok r
    | .error e => n.unexpectedValue e.message
  | _ => decodeRecord n

end Roll

end Dice

namespace Value

def decode (n : Node) : Decoded Value := do
  match ← n.case with
  | "engine_value_number" => return number (← (← n.child "value").number)
  | "engine_value_text" => return text (← n.textAt "value")
  | "engine_value_boolean" => return boolean (← (← n.child "value").boolean)
  | "engine_value_dice_roll" => return diceRoll (← Dice.Roll.decode (← n.child "value"))
  | "engine_value_list_text" => return listText (← n.listAt Node.text "value")
  | other => n.unknownCase other

end Value

namespace VariableId

def decode (n : Node) : Decoded VariableId :=
  match n.json with
  | .text s => .ok ⟨none, s⟩
  | _ => do
    let scope ← n.maybeTextAt "namespace"
    return ⟨scope, ← n.textAt "name"⟩

end VariableId

namespace VariableRef

def decode (n : Node) : Decoded VariableRef := do
  match ← n.case with
  | "variable_id" => return .id (← VariableId.decode (← n.child "value"))
  | "variable_tag" => return .tag (← n.textAt "value")
  | other => n.unknownCase other

end VariableRef

namespace EntryRef

def decode (n : Node) : Decoded EntryRef := do
  let valueSet ← n.textAt "value_set_id"
  return ⟨valueSet, ← n.textAt "value_id"⟩

end EntryRef

namespace BooleanRef

def decode (n : Node) : Decoded BooleanRef := do
  match ← n.case with
  | "boolean_literal" => return .literal (← (← n.child "value").boolean)
  | "variable_reference" => return .variable (← VariableRef.decode (← n.child "value"))
  | other => n.unknownCase other

end BooleanRef

namespace NumberRef

def decode (n : Node) : Decoded NumberRef := do
  match ← n.case with
  | "number_literal" => return .literal (← (← n.child "value").number)
  | "variable_reference" => return .variable (← VariableRef.decode (← n.child "value"))
  | "value_reference" => return .entry (← EntryRef.decode (← n.child "value"))
  | other => n.unknownCase other

end NumberRef

namespace DiceRef

def decode (n : Node) : Decoded DiceRef := do
  match ← n.case with
  | "dice_roll_literal" => return .literal (← Dice.Roll.decode (← n.child "value"))
  | "variable_reference" => return .variable (← VariableRef.decode (← n.child "value"))
  | other => n.unknownCase other

end DiceRef

namespace DataRef

def decode (n : Node) : Decoded DataRef := do
  match ← n.case with
  | "data_reference_boolean" => return .boolean (← BooleanRef.decode (← n.child "value"))
  | "data_reference_number" => return .number (← NumberRef.decode (← n.child "value"))
  | "data_reference_dice_roll" => return .diceRoll (← DiceRef.decode (← n.child "value"))
  | other => n.unknownCase other

end DataRef

namespace Invocation

def decode (n : Node) : Decoded Invocation := do
  let program ← n.textAt "program_id"
  return ⟨program, ← n.parameters DataRef.decode⟩

end Invocation

end Tabletop
