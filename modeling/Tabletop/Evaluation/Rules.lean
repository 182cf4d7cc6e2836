import Tabletop.Evaluation.Inquiry
import Tabletop.Rule.Rulebook

namespace Tabletop

open Evaluation (enter value entry roll apply typed)

namespace BooleanRef

def resolve : BooleanRef → Evaluation Bool
  | .literal b => return b
  | .variable r => do typed (← value r).toBoolean

end BooleanRef

namespace NumberRef

def resolve : NumberRef → Evaluation Float
  | .literal x => return x
  | .variable r => do typed (← value r).toNumber
  | .entry r => do typed (← Evaluation.entry r).value.toNumber

end NumberRef

namespace DiceRef

def resolve : DiceRef → Evaluation Dice.Roll
  | .literal r => return r
  | .variable r => do typed (← value r).toDiceRoll

end DiceRef

namespace DataRef

def resolve : DataRef → Evaluation Value
  | .boolean r => return .boolean (← r.resolve)
  | .number r => return .number (← r.resolve)
  | .diceRoll r => return .diceRoll (← r.resolve)

end DataRef

namespace Invocation

def resolveArguments (i : Invocation) : Evaluation (List Value) :=
  if maxParameters < i.arguments.length then
    throw (.tooManyParameters i.arguments.length maxParameters)
  else i.arguments.mapM DataRef.resolve

def invoke (i : Invocation) : Evaluation Value := do
  enter (.run i.program (← i.resolveArguments))

end Invocation

namespace Term

def evaluate : Term → Evaluation Float
  | number r => r.resolve
  | diceRoll r => do roll (← r.resolve)
  | conditional c t f => do if ← c.resolve then t.resolve else f.resolve

end Term

namespace Summation

def evaluate (s : Summation) : Evaluation Float :=
  s.terms.toList.foldlM (fun total t => return total + (← t.term.evaluate)) 0.0

end Summation

namespace Rulebook

def summation (b : Rulebook) (id : SummationId) : Evaluation Float :=
  match b.summation? id with
  | some s => s.evaluate
  | none => throw (.unknownSummation id)

end Rulebook

namespace Parameter

def resolve (program : ProgramId) (place : Nat) (args : List Value)
    (bindings : List (String × Value)) : Parameter → Evaluation Value
  | binding name =>
    match bindings.lookup name with
    | some v => return v
    | none => throw (.forwardReference program place name)
  | argument i =>
    match i.toNat with
    | 0 => throw (.noParameter program i)
    | k + 1 =>
      match args[k]? with
      | some v => return v
      | none => throw (.noParameter program i)
  | reference r => r.resolve

end Parameter

namespace Statement

def evaluate (program : ProgramId) (place : Nat) (args : List Value)
    (bindings : List (String × Value)) (s : Statement) : Evaluation Value := do
  if maxParameters < s.parameters.length then
    throw (.tooManyParameters s.parameters.length maxParameters)
  apply s.function (← s.parameters.mapM (Parameter.resolve program place args bindings))

end Statement

namespace Program

def runFrom (program : ProgramId) (args : List Value) (place : Nat)
    (bindings : List (String × Value)) : List Statement → Evaluation (List (String × Value))
  | [] => return bindings
  | s :: rest => do
    let v ← s.evaluate program place args bindings
    runFrom program args (place + 1) ((s.binding, v) :: bindings) rest

def execute (p : Program) (args : List Value) : Evaluation Value := do
  p.signature.checkArguments p.id args
  let bindings ← runFrom p.id args 0 [] p.statements
  match bindings.lookup p.resultBinding with
  | none => throw (.unboundResult p.id p.resultBinding)
  | some v =>
    p.signature.checkResult p.id v
    return v

end Program

namespace BooleanSetting

def evaluate : BooleanSetting → Evaluation Value
  | literal b => return .boolean b
  | program i => do typed ((← i.invoke).expect .boolean)

end BooleanSetting

namespace NumberSetting

def evaluate (b : Rulebook) (id : VariableId) : NumberSetting → Evaluation Value
  | .literal x => return .number x
  | .unknown => throw (.valueNotSet id)
  | .variable other => do typed ((← enter (.evaluate other)).expect .number)
  | .program i => do typed ((← i.invoke).expect .number)
  | .entry r => return .number (← typed (← Evaluation.entry r).value.toNumber)
  | .summation s => return .number (← b.summation s)

end NumberSetting

namespace TextSetting

def evaluate (id : VariableId) : TextSetting → Evaluation Value
  | literal s => return .text s
  | unknown | choice _ => throw (.valueNotSet id)
  | entry r => return .text (← typed (← Evaluation.entry r).value.toText)
  | program i => do typed ((← i.invoke).expect .text)

end TextSetting

namespace Variable

def evaluate (b : Rulebook) (v : Variable) : Evaluation Value :=
  match v.setting with
  | .boolean s => s.evaluate
  | .number s => s.evaluate b v.id
  | .text s => s.evaluate v.id
  | .diceRoll (.literal r) => return .diceRoll r

end Variable

namespace Mechanic

/-- Every requirement is true. The first that is false or fails decides. -/
def holds : List VariableId → Evaluation Bool
  | [] => return true
  | id :: ids => do if ← typed (← value (.id id)).toBoolean then holds ids else return false

def isActive (m : Mechanic) : Evaluation Bool := holds m.requirements

end Mechanic

end Tabletop
