import Tabletop.Document.Variable
import Tabletop.Rule.Rulebook

namespace Tabletop

open Document (Node Decoded)

namespace Citation

def decode (n : Node) : Decoded Citation := do
  let chapter ← n.textAt "chapter"
  let heading ← n.maybeTextAt "section"
  return ⟨chapter, heading, ← n.maybeTextAt "subsection"⟩

end Citation

namespace Payload

def decode (n : Node) : Decoded Payload := do
  match ← n.case with
  | "value_number" => return number (← (← n.child "value").number)
  | "value_text" => return text (← n.textAt "value")
  | other => n.unknownCase other

end Payload

namespace Entry

/-- The set that an entry names is forgotten when the entry joins a set. -/
def decode (n : Node) : Decoded Entry := do
  let payload ← Payload.decode n
  let valueSet := (← n.maybeTextAt "value_set_id").getD ""
  let id ← n.textAt "value_id"
  let description := (← n.maybeTextAt "description").getD ""
  let citation ← n.maybe Citation.decode "rulebook_reference"
  let gains ← n.listAt Variable.decode "variables"
  return { id, valueSet, description, citation, gains, payload }

end Entry

namespace Members

def decode (n : Node) : Decoded Members := do
  match ← n.case with
  | "value_set_base" => return base (← n.listAt Entry.decode "values")
  | "value_set_compound" => return compound (← n.listAt Node.text "value_set_ids")
  | other => n.unknownCase other

end Members

namespace ValueSet

def decode (n : Node) : Decoded ValueSet := do
  let id ← n.textAt "value_set_id"
  let label ← n.textAt "label"
  let members ← Members.decode n
  let labelSingular := (← n.maybeTextAt "label_singular").getD label
  let description := (← n.maybeTextAt "description").getD ""
  let valueType ← n.maybe ValueType.decode "value_type"
  let s : ValueSet := { id, label, labelSingular, description, valueType, members }
  return s.empty.addMembers members

end ValueSet

namespace Term

def decode (n : Node) : Decoded Term := do
  match ← n.case with
  | "summation_term_number" => return number (← NumberRef.decode (← n.child "value"))
  | "summation_term_dice_roll" => return diceRoll (← DiceRef.decode (← n.child "value"))
  | "summation_term_conditional" =>
    let condition ← BooleanRef.decode (← n.child "condition")
    let whenTrue ← NumberRef.decode (← n.child "when_true")
    return conditional condition whenTrue (← NumberRef.decode (← n.child "when_false"))
  | other => n.unknownCase other

end Term

namespace NamedTerm

def decode (n : Node) : Decoded NamedTerm := do
  let term ← Term.decode n
  return ⟨← n.maybeTextAt "term_name", term⟩

end NamedTerm

namespace Summation

def decode (n : Node) : Decoded Summation := do
  let id ← n.textAt "summation_id"
  let name ← n.textAt "name"
  return (← n.listAt NamedTerm.decode "terms").foldl addTerm { id, name }

end Summation

namespace Signature

def decode (n : Node) : Decoded Signature := do
  let parameters ← (← n.positional "parameter" "_type").mapM ValueType.decode
  return ⟨parameters, ← ValueType.decode (← n.child "result_type")⟩

end Signature

namespace Row

def decode (n : Node) : Decoded Row := do
  let parameters ← n.parameters Value.decode
  return ⟨parameters, ← Value.decode (← n.child "result")⟩

end Row

namespace Table

def decodeRow (f : Table) (n : Node) : Decoded Row := do
  let r ← Row.decode n
  match f.checkRow r with
  | .ok () => return r
  | .error e => n.unexpectedValue e.message

def decode (n : Node) : Decoded Table := do
  let id ← n.textAt "function_id"
  let signature ← Signature.decode (← n.child "type_signature")
  let label := (← n.maybeTextAt "label").getD id
  let description := (← n.maybeTextAt "description").getD ""
  let f : Table := { id, label, description, signature }
  return { f with rows := ← n.listAt f.decodeRow "tuples" }

end Table

namespace Parameter

def decode (n : Node) : Decoded Parameter := do
  match ← n.case with
  | "statement_binding" => return binding (← n.textAt "value")
  | "program_parameter_index" =>
    let m ← n.child "value"
    let i ← m.integer
    if i < 0 then m.unexpectedValue (toString i) else return argument (UInt64.ofNat i.toNat)
  | "data_reference" => return reference (← DataRef.decode (← n.child "value"))
  | other => n.unknownCase other

end Parameter

namespace Statement

def decode (n : Node) : Decoded Statement := do
  let binding ← n.textAt "binding_name"
  let function ← n.textAt "function_id"
  return ⟨binding, function, ← n.parameters Parameter.decode⟩

end Statement

namespace Program

def decode (n : Node) : Decoded Program := do
  let id ← n.textAt "program_id"
  let signature ← Signature.decode (← n.child "type_signature")
  let resultBinding ← n.textAt "result_binding_name"
  let label := (← n.maybeTextAt "label").getD id
  let description := (← n.maybeTextAt "description").getD ""
  let statements ← n.listAt Statement.decode "statements"
  return { id, label, description, signature, statements, resultBinding }

end Program

namespace Mechanic

def decode (n : Node) : Decoded Mechanic := do
  let id ← n.textAt "mechanic_id"
  let label ← n.textAt "label"
  let description := (← n.maybeTextAt "description").getD ""
  let summary := (← n.maybeTextAt "summary").getD ""
  let category ← n.maybeTextAt "category_id"
  let requirements ← n.listAt VariableId.decode "requirements"
  let gains ← n.listAt Variable.decode "variables"
  return { id, label, description, summary, category, requirements, gains }

end Mechanic

namespace Rulebook

def decode (n : Node) : Decoded Rulebook := do
  let name := (← n.maybeTextAt "name").getD ""
  let valueSets ← n.listAt ValueSet.decode "value_sets"
  let functions ← n.listAt Table.decode "functions"
  let programs ← n.listAt Program.decode "programs"
  let summations ← n.listAt Summation.decode "summations"
  let mechanics ← n.listAt Mechanic.decode "mechanics"
  let b := valueSets.foldl addValueSet { name }
  let b := functions.foldl addFunction b
  let b := programs.foldl addProgram b
  let b := summations.foldl addSummation b
  return mechanics.foldl addMechanic b

end Rulebook

end Tabletop
