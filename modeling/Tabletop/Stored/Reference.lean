import Tabletop.Stored.Value
import Tabletop.Reference

namespace Tabletop

namespace VariableId

def toJson (id : VariableId) : Json :=
  .record (Json.optionalField "namespace" .text id.scope ++ [("name", .text id.name)])

def ofJson? (j : Json) : Option VariableId := do
  let fields ← j.fields? ["namespace", "name"]
  return ⟨← Json.optional? fields "namespace" Json.text?, ← Json.required? fields "name" Json.text?⟩

end VariableId

namespace VariableRef

def toJson : VariableRef → Json
  | .id i => .single "id" i.toJson
  | .tag t => .single "tag" (.text t)

def ofJson? (j : Json) : Option VariableRef := do
  match ← j.onlyField? with
  | ("id", j) => return .id (← VariableId.ofJson? j)
  | ("tag", j) => return .tag (← j.text?)
  | _ => none

end VariableRef

namespace EntryRef

def toJson (r : EntryRef) : Json :=
  .record [("value_set_id", .text r.valueSet), ("value_id", .text r.entry)]

def ofJson? (j : Json) : Option EntryRef := do
  let fields ← j.fields? ["value_set_id", "value_id"]
  return ⟨← Json.required? fields "value_set_id" Json.text?,
    ← Json.required? fields "value_id" Json.text?⟩

end EntryRef

namespace BooleanRef

def toJson : BooleanRef → Json
  | .literal b => .single "literal" (.bool b)
  | .variable r => .single "variable" r.toJson

def ofJson? (j : Json) : Option BooleanRef := do
  match ← j.onlyField? with
  | ("literal", j) => return .literal (← j.bool?)
  | ("variable", j) => return .variable (← VariableRef.ofJson? j)
  | _ => none

end BooleanRef

namespace NumberRef

def toJson : NumberRef → Json
  | .literal x => .single "literal" (.float x)
  | .variable r => .single "variable" r.toJson
  | .entry r => .single "value" r.toJson

def ofJson? (j : Json) : Option NumberRef := do
  match ← j.onlyField? with
  | ("literal", j) => return .literal (← j.float?)
  | ("variable", j) => return .variable (← VariableRef.ofJson? j)
  | ("value", j) => return .entry (← EntryRef.ofJson? j)
  | _ => none

end NumberRef

namespace DiceRef

def toJson : DiceRef → Json
  | .literal r => .single "literal" r.toJson
  | .variable r => .single "variable" r.toJson

def ofJson? (j : Json) : Option DiceRef := do
  match ← j.onlyField? with
  | ("literal", j) => return .literal (← Dice.Roll.ofJson? j)
  | ("variable", j) => return .variable (← VariableRef.ofJson? j)
  | _ => none

end DiceRef

namespace DataRef

def toJson : DataRef → Json
  | .boolean r => .single "boolean" r.toJson
  | .number r => .single "number" r.toJson
  | .diceRoll r => .single "dice_roll" r.toJson

def ofJson? (j : Json) : Option DataRef := do
  match ← j.onlyField? with
  | ("boolean", j) => return .boolean (← BooleanRef.ofJson? j)
  | ("number", j) => return .number (← NumberRef.ofJson? j)
  | ("dice_roll", j) => return .diceRoll (← DiceRef.ofJson? j)
  | _ => none

end DataRef

namespace Invocation

def toJson (i : Invocation) : Json :=
  .record [("program_id", .text i.program), ("arguments", .list (i.arguments.map DataRef.toJson))]

def ofJson? (j : Json) : Option Invocation := do
  let fields ← j.fields? ["program_id", "arguments"]
  return ⟨← Json.required? fields "program_id" Json.text?,
    ← Json.defaulted? fields "arguments" (Json.listOf? DataRef.ofJson?) []⟩

end Invocation

end Tabletop
