import Tabletop.Rule.Table

/-!
Programs: statements that apply functions one after another and bind each result to a name.
-/

namespace Tabletop

inductive Parameter where
  | binding (name : String)
  /-- An argument of the program, counted from one. -/
  | argument (index : UInt64)
  | reference (r : DataRef)
  deriving DecidableEq

structure Statement where
  binding : String
  function : FunctionId
  parameters : List Parameter := []
  deriving DecidableEq

structure Program where
  id : ProgramId
  label : String
  description : String := ""
  signature : Signature
  statements : List Statement := []
  resultBinding : String
  deriving DecidableEq

namespace Statement

def reads (s : Statement) : List String :=
  s.parameters.filterMap fun
    | .binding name => some name
    | _ => none

def refs (s : Statement) : List VariableRef :=
  s.parameters.flatMap fun
    | .reference r => r.refs
    | _ => []

end Statement

namespace Program

def order : Program → Program → Ordering := compareOn Program.id

instance : Std.TransCmp order := inferInstanceAs (Std.TransCmp (compareOn _))

def forwardFrom (bound : List String) (place : Nat) : List Statement → List (Nat × String)
  | [] => []
  | s :: rest =>
    (s.reads.filter (· ∉ bound)).map (place, ·) ++ forwardFrom (s.binding :: bound) (place + 1) rest

def forwardReferences (p : Program) : List (Nat × String) := forwardFrom [] 0 p.statements

def refs (p : Program) : List VariableRef := p.statements.flatMap Statement.refs

def applied (p : Program) : List FunctionId := p.statements.map Statement.function

end Program

end Tabletop
