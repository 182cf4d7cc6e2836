import Tabletop.Stored.Reference
import Tabletop.Variable

namespace Tabletop

namespace BooleanSetting

def toJson : BooleanSetting → Json
  | literal b => .tagged "kind" "value" "literal" (.bool b)
  | program i => .tagged "kind" "value" "program" i.toJson

def ofJson? (j : Json) : Option BooleanSetting := do
  let (kind, content) ← j.tagged? "kind" "value"
  let held ← content
  match kind with
  | "literal" => return literal (← held.bool?)
  | "program" => return program (← Invocation.ofJson? held)
  | _ => none

end BooleanSetting

def unknownJson : Json := .single "kind" (.text "unknown")

def isUnknownContent : Option Json → Bool
  | none | some .null => true
  | _ => false

namespace NumberSetting

def toJson : NumberSetting → Json
  | .literal x => .tagged "kind" "value" "literal" (.float x)
  | .unknown => unknownJson
  | .variable id => .tagged "kind" "value" "variable" id.toJson
  | .program i => .tagged "kind" "value" "program" i.toJson
  | .entry r => .tagged "kind" "value" "value" r.toJson
  | .summation id => .tagged "kind" "value" "summation" (.text id)

def ofJson? (j : Json) : Option NumberSetting := do
  let (kind, content) ← j.tagged? "kind" "value"
  if kind = "unknown" then
    if isUnknownContent content then return .unknown else none
  else
    let held ← content
    match kind with
    | "literal" => return .literal (← held.float?)
    | "variable" => return .variable (← VariableId.ofJson? held)
    | "program" => return .program (← Invocation.ofJson? held)
    | "value" => return .entry (← EntryRef.ofJson? held)
    | "summation" => return .summation (← held.text?)
    | _ => none

end NumberSetting

namespace TextSetting

def toJson : TextSetting → Json
  | literal s => .tagged "kind" "value" "literal" (.text s)
  | unknown => unknownJson
  | entry r => .tagged "kind" "value" "value" r.toJson
  | program i => .tagged "kind" "value" "program" i.toJson
  | choice id => .tagged "kind" "value" "value_set_choice" (.text id)

def ofJson? (j : Json) : Option TextSetting := do
  let (kind, content) ← j.tagged? "kind" "value"
  if kind = "unknown" then
    if isUnknownContent content then return unknown else none
  else
    let held ← content
    match kind with
    | "literal" => return literal (← held.text?)
    | "value" => return entry (← EntryRef.ofJson? held)
    | "program" => return program (← Invocation.ofJson? held)
    | "value_set_choice" => return choice (← held.text?)
    | _ => none

end TextSetting

namespace DiceSetting

def toJson : DiceSetting → Json
  | literal r => .tagged "kind" "value" "literal" r.toJson

def ofJson? (j : Json) : Option DiceSetting := do
  let (kind, content) ← j.tagged? "kind" "value"
  if kind = "literal" then return literal (← Dice.Roll.ofJson? (← content)) else none

end DiceSetting

namespace Setting

def toJson : Setting → Json
  | boolean s => .single "boolean" s.toJson
  | number s => .single "number" s.toJson
  | text s => .single "text" s.toJson
  | diceRoll s => .single "dice_roll" s.toJson

def ofJson? (j : Json) : Option Setting := do
  match ← j.onlyField? with
  | ("boolean", j) => return boolean (← BooleanSetting.ofJson? j)
  | ("number", j) => return number (← NumberSetting.ofJson? j)
  | ("text", j) => return text (← TextSetting.ofJson? j)
  | ("dice_roll", j) => return diceRoll (← DiceSetting.ofJson? j)
  | _ => none

end Setting

namespace Assignment

def toJson (a : Assignment) : Json :=
  .record (("value", a.setting.toJson) :: Json.optionalField "description" .text a.description)

def ofJson? (j : Json) : Option Assignment := do
  let fields ← j.fields? ["value", "description"]
  return ⟨← Json.required? fields "value" NumberSetting.ofJson?,
    ← Json.optional? fields "description" Json.text?⟩

end Assignment

def historyJson (history : List Assignment) : Json :=
  .single "entries" (.list (history.map Assignment.toJson))

def historyOfJson? (j : Json) : Option (List Assignment) := do
  Json.required? (← j.fields? ["entries"]) "entries" (Json.listOf? Assignment.ofJson?)

namespace Variable

def toJson (v : Variable) : Json :=
  .record <|
    [("id", v.id.toJson), ("label", .text v.label), ("description", .text v.description),
      ("tags", .list (v.tags.toList.map .text)), ("value", v.setting.toJson)] ++
    if v.history.isEmpty then [] else [("history", historyJson v.history)]

def ofJson? (j : Json) : Option Variable := do
  let fields ← j.fields? ["id", "label", "description", "tags", "value", "history"]
  let v : Variable := {
    id := ← Json.required? fields "id" VariableId.ofJson?
    label := ← Json.required? fields "label" Json.text?
    description := ← Json.defaulted? fields "description" Json.text? ""
    tags := .ofList (← Json.defaulted? fields "tags" (Json.listOf? Json.text?) [])
    setting := ← Json.required? fields "value" Setting.ofJson? }
  v.withHistory? (← Json.defaulted? fields "history" historyOfJson? [])

end Variable

end Tabletop
