import Tabletop.RuleError

/-!
Functions given by tables: each row lists parameters and their result. The first row whose
parameters equal the arguments answers.
-/

namespace Tabletop

structure Signature where
  parameters : List ValueType
  result : ValueType
  deriving DecidableEq

def maxParameters : Nat := 5

namespace Signature

def firstMismatch? (position : Nat) : List ValueType → List Value → Option SignatureFault
  | t :: ts, v :: vs =>
    if v.type = t then firstMismatch? (position + 1) ts vs
    else some (.parameter position ⟨t, v.type⟩)
  | _, _ => none

def checkArguments (s : Signature) (target : String) (args : List Value) : Except RuleError Unit :=
  if maxParameters < args.length then .error (.tooManyParameters args.length maxParameters)
  else if args.length ≠ s.parameters.length then
    .error (.signature target (.arity s.parameters.length args.length))
  else
    match firstMismatch? 1 s.parameters args with
    | some fault => .error (.signature target fault)
    | none => .ok ()

def checkResult (s : Signature) (target : String) (result : Value) : Except RuleError Unit :=
  if result.type = s.result then .ok ()
  else .error (.signature target (.result ⟨s.result, result.type⟩))

def text (s : Signature) : String :=
  "(" ++ ", ".intercalate (s.parameters.map ValueType.label) ++ ") -> " ++ s.result.label

end Signature

structure Row where
  parameters : List Value
  result : Value
  deriving DecidableEq

structure Table where
  id : FunctionId
  label : String
  description : String := ""
  signature : Signature
  rows : List Row := []
  deriving DecidableEq

namespace Table

def order : Table → Table → Ordering := compareOn Table.id

instance : Std.TransCmp order := inferInstanceAs (Std.TransCmp (compareOn _))

def checkRow (f : Table) (r : Row) : Except RuleError Unit := do
  f.signature.checkArguments f.id r.parameters
  f.signature.checkResult f.id r.result

def validate (f : Table) : Except RuleError Unit := f.rows.forM f.checkRow

def apply (f : Table) (args : List Value) : Except RuleError Value := do
  f.signature.checkArguments f.id args
  match f.rows.find? (·.parameters == args) with
  | some r => return r.result
  | none => throw (.noMatchingRow f.id)

end Table

end Tabletop
