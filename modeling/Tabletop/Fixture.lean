import Tabletop.Sheet

namespace Tabletop

def Table.ofNumbers (id : FunctionId) (arity : Nat) (rows : List (List Float × Float)) : Table :=
  { id, label := id
    signature := ⟨List.replicate arity .number, .number⟩
    rows := rows.map fun (args, result) => ⟨args.map .number, .number result⟩ }

def ValueSet.ofNumbers (id : ValueSetId) (entries : List (EntryId × Float)) : ValueSet :=
  let s : ValueSet := { id, label := id, valueType := some .number, members := .base [] }
  entries.foldl
    (fun s (entry, x) => s.addEntry { id := entry, valueSet := id, payload := .number x }) s

namespace Variable

def named (name : String) (setting : Setting) : Variable :=
  { id := ⟨none, name⟩, label := name, setting }

end Variable

inductive Unmet where
  | differs (id : VariableId) (actual : Value)
  | failed (id : VariableId) (e : RuleError)

def Unmet.message : Unmet → String
  | differs id actual => "Variable " ++ id.text ++ " evaluated to " ++ actual.shown
  | failed id e => "Variable " ++ id.text ++ " failed to evaluate: " ++ e.message

def Sheet.expects (s : Sheet) (name : String) (expected : Value) :
    Dice.Plan (Except Unmet Unit) := do
  let id : VariableId := ⟨none, name⟩
  match ← (s.value id).run with
  | .ok v => return if v == expected then .ok () else .error (.differs id v)
  | .error e => return .error (.failed id e)

end Tabletop
