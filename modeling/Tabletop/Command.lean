import Tabletop.Dice.Expression
import Tabletop.Evaluation.Conformance
import Tabletop.Sheet.Save
import Tabletop.Store.Dependency

namespace Tabletop.Command

inductive Error where
  | load (e : LoadError)
  | expression (e : Dice.ExpressionError)
  | dice (f : Dice.Fault)
  | rule (e : RuleError)

def Error.message : Error → String
  | load e => e.message
  | expression e => e.message
  | dice f => f.message
  | rule e => e.message

structure Output where
  lines : List String := []
  result : Except Error Bool

def stopped (e : Error) : Output := ⟨[], .error e⟩

def load (limits : Limits) (rulebook sheet : Option String) : Loaded Sheet := do
  return { ← Sheet.ofText (← Rulebook.ofText rulebook) sheet with limits }

def resultLine : VariableId × Except RuleError Value → String
  | (id, .ok v) => id.text ++ " = " ++ v.shown
  | (id, .error e) => "[ERROR] " ++ id.text ++ ": " ++ e.message

def evaluateOne (s : Sheet) (name : String) : Dice.Plan Output := do
  let id := VariableId.parse name
  let result ← (s.value id).run
  return ⟨[resultLine (id, result)], .ok result.isOk⟩

def evaluateAll (s : Sheet) : Dice.Plan Output := do
  let report ← s.evaluateAll
  let summary := toString report.length ++ " evaluated, " ++ toString report.failures ++ " failed"
  return ⟨report.map resultLine ++ ["", summary], .ok (report.failures = 0)⟩

def eval (s : Sheet) (mechanics : Bool) (name : Option String) : Dice.Plan Output := do
  let (ids, s) ← if mechanics then s.activate else pure ([], s)
  let output ← match name with
    | some name => evaluateOne s name
    | none => evaluateAll s
  return { output with lines := ids.map ("[MECHANIC] " ++ ·) ++ output.lines }

def rollLine (r : Dice.Roll) (t : Dice.Throw) : String :=
  r.text ++ ": " ++ t.diceText ++ " = " ++ Text.signedNumber t.total

def roll (expression : String) : Dice.Plan Output :=
  match Dice.Roll.parse expression with
  | .error e => return stopped (.expression e)
  | .ok r => do
    match ← (r.throw Dice.Roll.usualLimit).run with
    | .error f => return stopped (.dice f)
    | .ok t => return ⟨[rollLine r t], .ok true⟩

def failureLine (f : Failure) : String :=
  let actual := match f.actual with
    | .ok v => v.shown
    | .error e => "error: " ++ e.message
  "[FAIL] row " ++ toString f.row ++ ": (" ++ ", ".intercalate (f.arguments.map Value.shown) ++
    ") expected " ++ f.expected.shown ++ ", got " ++ actual

def conformanceLine (r : Conformance) : String :=
  r.program ++ " against " ++ r.function ++ ": " ++ toString r.passed ++ "/" ++ toString r.total ++
    " rows passed"

def conformance (limits : Limits) (rulebook : Rulebook) (program : ProgramId)
    (function : FunctionId) : Dice.Plan Output := do
  let c : Context := { rulebook, store := {}, limits }
  match ← c.fresh (Conformance.check rulebook program function).run with
  | .error e => return stopped (.rule e)
  | .ok r => return ⟨r.failures.map failureLine ++ [conformanceLine r], .ok r.success⟩

def forwardLines (p : Program) : List String :=
  p.forwardReferences.map fun (place, name) =>
    "[WARN] program " ++ p.id ++ ": statement " ++ toString place ++ " reads '" ++ name ++
      "' before it is bound"

/-- A cycle for each variable that leads to one and is on none of the cycles already found. -/
def cyclesFrom (s : Store) (b : Rulebook) (reported : List VariableId) :
    List VariableId → List (List VariableId)
  | [] => []
  | id :: ids =>
    if id ∈ reported then cyclesFrom s b reported ids
    else
      match s.findCycle b id with
      | some cycle => cycle :: cyclesFrom s b (cycle ++ reported) ids
      | none => cyclesFrom s b reported ids

def cycles (s : Store) (b : Rulebook) : List (List VariableId) := cyclesFrom s b [] s.ids

def cycleLine (cycle : List VariableId) : String :=
  "[WARN] cycle: " ++ " -> ".intercalate (cycle.map VariableId.text)

def verdict (problems : List String) : Output :=
  if problems.isEmpty then ⟨["No problems found"], .ok true⟩ else ⟨problems, .ok false⟩

def check (rulebook : Option String) (sheet : Option (Option String)) : Output :=
  match Rulebook.ofText rulebook with
  | .error e => stopped (.load e)
  | .ok b =>
    let problems := b.programs.toList.flatMap forwardLines
    match sheet with
    | none => verdict problems
    | some text =>
      match Sheet.ofText b text with
      | .error e => ⟨problems, .error (.load e)⟩
      | .ok s => verdict (problems ++ (cycles s.store b).map cycleLine)

def savedLine (path : String) : String := "[SAVED] " ++ path

end Tabletop.Command
