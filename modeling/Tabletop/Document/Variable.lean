import Tabletop.Document.Value
import Tabletop.RuleError
import Tabletop.Variable

namespace Tabletop

open Document (Node Decoded)

namespace BooleanSetting

def decode (n : Node) : Decoded BooleanSetting := do
  match ← n.case with
  | "boolean_literal" => return literal (← (← n.child "value").boolean)
  | "program_invocation" => return program (← Invocation.decode (← n.child "value"))
  | other => n.unknownCase other

end BooleanSetting

namespace NumberSetting

def decode (n : Node) : Decoded NumberSetting := do
  match ← n.case with
  | "number_literal" => return .literal (← (← n.child "value").number)
  | "unknown_literal_value" => return .unknown
  | "variable_id" => return .variable (← VariableId.decode (← n.child "value"))
  | "program_invocation" => return .program (← Invocation.decode (← n.child "value"))
  | "value_reference" => return .entry (← EntryRef.decode (← n.child "value"))
  | "summation_id" => return .summation (← n.textAt "value")
  | other => n.unknownCase other

end NumberSetting

namespace TextSetting

def decode (n : Node) : Decoded TextSetting := do
  match ← n.case with
  | "text_literal" => return literal (← n.textAt "value")
  | "unknown_literal_value" => return unknown
  | "value_reference" => return entry (← EntryRef.decode (← n.child "value"))
  | "program_invocation" => return program (← Invocation.decode (← n.child "value"))
  | "value_set_id" => return choice (← n.textAt "value")
  | other => n.unknownCase other

end TextSetting

namespace DiceSetting

def decode (n : Node) : Decoded DiceSetting := do
  match ← n.case with
  | "dice_roll_literal" => return literal (← Dice.Roll.decode (← n.child "value"))
  | other => n.unknownCase other

end DiceSetting

namespace Setting

def decode (n : Node) : Decoded Setting := do
  match ← n.case with
  | "variable_boolean" => return boolean (← BooleanSetting.decode (← n.child "value"))
  | "variable_number" => return number (← NumberSetting.decode (← n.child "value"))
  | "variable_text" => return text (← TextSetting.decode (← n.child "value"))
  | "variable_dice_roll" => return diceRoll (← DiceSetting.decode (← n.child "value"))
  | other => n.unknownCase other

end Setting

namespace Assignment

def decode (n : Node) : Decoded Assignment := do
  let setting ← NumberSetting.decode (← n.child "value")
  return ⟨setting, ← n.maybeTextAt "description"⟩

end Assignment

namespace Variable

def decode (n : Node) : Decoded Variable := do
  let setting ← Setting.decode n
  let id ← VariableId.decode (← n.child "id")
  let label ← n.textAt "label"
  let description := (← n.maybeTextAt "description").getD ""
  let tags ← n.listAt Node.text "tags"
  let v : Variable := { id, label, description, tags := .ofList tags, setting }
  match ← n.maybeAt "history" with
  | none => return v
  | some h =>
    match v.withHistory? (← (← h.list).mapM Assignment.decode) with
    | some v => return v
    | none => h.unexpectedValue (RuleError.historyUnsupported v.id).message

def decodeAll (n : Node) : Decoded (List Variable) :=
  match n.json with
  | .list _ => do (← n.list).mapM decode
  | _ => n.listAt decode "variables"

end Variable

end Tabletop
