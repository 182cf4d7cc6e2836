import Tabletop.Stored.Variable
import Tabletop.Rule.ValueSet

/-!
The stored form of value sets. What is read back goes through the set's own rules, so entries
belong to the set and none is there twice.
-/

namespace Tabletop

namespace Citation

def toJson (c : Citation) : Json :=
  .record <|
    ("chapter", .text c.chapter) :: Json.optionalField "section" .text c.heading ++
      Json.optionalField "subsection" .text c.subheading

def ofJson? (j : Json) : Option Citation := do
  let fields ← j.fields? ["chapter", "section", "subsection"]
  return ⟨← Json.required? fields "chapter" Json.text?,
    ← Json.optional? fields "section" Json.text?, ← Json.optional? fields "subsection" Json.text?⟩

end Citation

namespace Payload

def toJson : Payload → Json
  | number x => .single "number" (.float x)
  | text s => .single "text" (.text s)

def ofJson? (j : Json) : Option Payload := do
  match ← j.onlyField? with
  | ("number", j) => return number (← j.float?)
  | ("text", j) => return text (← j.text?)
  | _ => none

end Payload

namespace Entry

def toJson (e : Entry) : Json :=
  .record <|
    [("id", .text e.id), ("value_set_id", .text e.valueSet),
      ("description", .text e.description)] ++
    Json.optionalField "rulebook_reference" Citation.toJson e.citation ++
    [("variables", .list (e.gains.map Variable.toJson)), ("payload", e.payload.toJson)]

def ofJson? (j : Json) : Option Entry := do
  let fields ← j.fields?
    ["id", "value_set_id", "description", "rulebook_reference", "variables", "payload"]
  return {
    id := ← Json.required? fields "id" Json.text?
    valueSet := ← Json.required? fields "value_set_id" Json.text?
    description := ← Json.defaulted? fields "description" Json.text? ""
    citation := ← Json.optional? fields "rulebook_reference" Citation.ofJson?
    gains := ← Json.defaulted? fields "variables" (Json.listOf? Variable.ofJson?) []
    payload := ← Json.required? fields "payload" Payload.ofJson? }

end Entry

namespace Members

def toJson : Members → Json
  | base entries => .single "base" (.list (entries.map Entry.toJson))
  | compound sets => .single "compound" (.list (sets.map .text))

def ofJson? (j : Json) : Option Members := do
  match ← j.onlyField? with
  | ("base", j) => return base (← j.listOf? Entry.ofJson?)
  | ("compound", j) => return compound (← j.listOf? Json.text?)
  | _ => none

end Members

namespace ValueSet

def toJson (s : ValueSet) : Json :=
  .record <|
    [("id", .text s.id), ("label", .text s.label), ("label_singular", .text s.labelSingular),
      ("description", .text s.description)] ++
    Json.optionalField "value_type" ValueType.toJson s.valueType ++ [("members", s.members.toJson)]

def ofJson? (j : Json) : Option ValueSet := do
  let fields ← j.fields?
    ["id", "label", "label_singular", "description", "value_type", "members"]
  let members ← Json.required? fields "members" Members.ofJson?
  let s : ValueSet := {
    id := ← Json.required? fields "id" Json.text?
    label := ← Json.required? fields "label" Json.text?
    labelSingular := ← Json.required? fields "label_singular" Json.text?
    description := ← Json.defaulted? fields "description" Json.text? ""
    valueType := ← Json.optional? fields "value_type" ValueType.ofJson?
    members }
  return s.empty.addMembers members

end ValueSet

end Tabletop
