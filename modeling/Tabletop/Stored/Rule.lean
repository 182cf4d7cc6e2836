import Tabletop.Stored.ValueSet
import Tabletop.Rule.Rulebook

namespace Tabletop

namespace Signature

def toJson (s : Signature) : Json :=
  .record [("parameters", .list (s.parameters.map ValueType.toJson)), ("result", s.result.toJson)]

def ofJson? (j : Json) : Option Signature := do
  let fields ← j.fields? ["parameters", "result"]
  return ⟨← Json.required? fields "parameters" (Json.listOf? ValueType.ofJson?),
    ← Json.required? fields "result" ValueType.ofJson?⟩

end Signature

namespace Row

def toJson (r : Row) : Json :=
  .record [("parameters", .list (r.parameters.map Value.toJson)), ("result", r.result.toJson)]

def ofJson? (j : Json) : Option Row := do
  let fields ← j.fields? ["parameters", "result"]
  return ⟨← Json.required? fields "parameters" (Json.listOf? Value.ofJson?),
    ← Json.required? fields "result" Value.ofJson?⟩

end Row

namespace Table

def toJson (f : Table) : Json :=
  .record [("id", .text f.id), ("label", .text f.label), ("description", .text f.description),
    ("signature", f.signature.toJson), ("tuples", .list (f.rows.map Row.toJson))]

def ofJson? (j : Json) : Option Table := do
  let fields ← j.fields? ["id", "label", "description", "signature", "tuples"]
  return {
    id := ← Json.required? fields "id" Json.text?
    label := ← Json.required? fields "label" Json.text?
    description := ← Json.defaulted? fields "description" Json.text? ""
    signature := ← Json.required? fields "signature" Signature.ofJson?
    rows := ← Json.required? fields "tuples" (Json.listOf? Row.ofJson?) }

end Table

namespace Parameter

def toJson : Parameter → Json
  | binding name => .single "binding" (.text name)
  | argument i => .single "program_parameter" (.whole i.toNat)
  | reference r => .single "reference" r.toJson

def ofJson? (j : Json) : Option Parameter := do
  match ← j.onlyField? with
  | ("binding", j) => return binding (← j.text?)
  | ("program_parameter", j) => return argument (← j.uint64?)
  | ("reference", j) => return reference (← DataRef.ofJson? j)
  | _ => none

end Parameter

namespace Statement

def toJson (s : Statement) : Json :=
  .record [("binding", .text s.binding), ("function_id", .text s.function),
    ("parameters", .list (s.parameters.map Parameter.toJson))]

def ofJson? (j : Json) : Option Statement := do
  let fields ← j.fields? ["binding", "function_id", "parameters"]
  return ⟨← Json.required? fields "binding" Json.text?,
    ← Json.required? fields "function_id" Json.text?,
    ← Json.required? fields "parameters" (Json.listOf? Parameter.ofJson?)⟩

end Statement

namespace Program

def toJson (p : Program) : Json :=
  .record [("id", .text p.id), ("label", .text p.label), ("description", .text p.description),
    ("signature", p.signature.toJson), ("statements", .list (p.statements.map Statement.toJson)),
    ("result_binding", .text p.resultBinding)]

def ofJson? (j : Json) : Option Program := do
  let fields ← j.fields?
    ["id", "label", "description", "signature", "statements", "result_binding"]
  return {
    id := ← Json.required? fields "id" Json.text?
    label := ← Json.required? fields "label" Json.text?
    description := ← Json.defaulted? fields "description" Json.text? ""
    signature := ← Json.required? fields "signature" Signature.ofJson?
    statements := ← Json.required? fields "statements" (Json.listOf? Statement.ofJson?)
    resultBinding := ← Json.required? fields "result_binding" Json.text? }

end Program

namespace Mechanic

def toJson (m : Mechanic) : Json :=
  .record <|
    [("id", .text m.id), ("label", .text m.label), ("description", .text m.description),
      ("summary", .text m.summary)] ++
    Json.optionalField "category_id" .text m.category ++
    [("requirements", .list (m.requirements.map VariableId.toJson)),
      ("variables", .list (m.gains.map Variable.toJson))]

def ofJson? (j : Json) : Option Mechanic := do
  let fields ← j.fields?
    ["id", "label", "description", "summary", "category_id", "requirements", "variables"]
  return {
    id := ← Json.required? fields "id" Json.text?
    label := ← Json.required? fields "label" Json.text?
    description := ← Json.defaulted? fields "description" Json.text? ""
    summary := ← Json.defaulted? fields "summary" Json.text? ""
    category := ← Json.optional? fields "category_id" Json.text?
    requirements := ← Json.defaulted? fields "requirements" (Json.listOf? VariableId.ofJson?) []
    gains := ← Json.defaulted? fields "variables" (Json.listOf? Variable.ofJson?) [] }

end Mechanic

end Tabletop
