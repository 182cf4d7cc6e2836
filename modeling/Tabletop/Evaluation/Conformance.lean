import Tabletop.Evaluation.Rules

namespace Tabletop

structure Failure where
  row : Nat
  arguments : List Value
  expected : Value
  actual : Except RuleError Value

structure Conformance where
  program : ProgramId
  function : FunctionId
  passed : Nat := 0
  failures : List Failure := []

namespace Conformance

def total (r : Conformance) : Nat := r.passed + r.failures.length

def success (r : Conformance) : Bool := r.failures.isEmpty

def add (r : Conformance) (row : Nat) (expected : Row) (actual : Except RuleError Value) :
    Conformance :=
  let conforms := match actual with
    | .ok v => v == expected.result
    | .error _ => false
  if conforms then { r with passed := r.passed + 1 }
  else
    { r with failures := r.failures ++ [⟨row, expected.parameters, expected.result, actual⟩] }

def checkRows (r : Conformance) (row : Nat) : List Row → Inquiry Conformance
  | [] => return r
  | expected :: rest => do
    let actual ← (Evaluation.enter (.run r.program expected.parameters)).run
    checkRows (r.add row expected actual) (row + 1) rest

def check (b : Rulebook) (program : ProgramId) (function : FunctionId) : Evaluation Conformance :=
  match b.program? program, b.function? function with
  | none, _ => throw (.unknownProgram program)
  | some _, none => throw (.unknownFunction function)
  | some _, some f => ExceptT.lift (checkRows ⟨program, function, 0, []⟩ 0 f.rows)

end Conformance

end Tabletop
