import Tabletop.Evaluation.Conformance
import Tabletop.Evaluation.Evaluator

namespace Tabletop

inductive Call where
  | evaluate (id : VariableId)
  | value (r : VariableRef)
  | values (r : VariableRef)
  | entry (r : EntryRef)
  | resolve (r : DataRef)
  | invoke (i : Invocation)
  | run (id : ProgramId) (args : List Value)
  | apply (id : FunctionId) (args : List Value)
  | summation (id : SummationId)
  | roll (r : Dice.Roll)
  | isActive (m : Mechanic)
  | conformance (program : ProgramId) (function : FunctionId)

inductive Answer where
  | value (v : Value)
  | values (vs : List Value)
  | entry (e : Entry)
  | number (x : Float)
  | boolean (b : Bool)
  | conformance (r : Conformance)

namespace Call

def evaluation (c : Context) : Call → Evaluation Answer
  | evaluate id => return .value (← Evaluation.enter (.evaluate id))
  | value r => return .value (← Evaluation.value r)
  | values r => do
    let vs ← c.store.resolve r
    return .values (← vs.mapM fun v => Evaluation.enter (.evaluate v.id))
  | entry r => return .entry (← Evaluation.entry r)
  | resolve r => return .value (← r.resolve)
  | invoke i => return .value (← i.invoke)
  | run id args => return .value (← Evaluation.enter (.run id args))
  | apply id args => return .value (← Evaluation.apply id args)
  | summation id => return .number (← c.rulebook.summation id)
  | roll r => return .number (← Evaluation.roll r)
  | isActive m => return .boolean (← m.isActive)
  | conformance program function => do
    return .conformance (← Conformance.check c.rulebook program function)

end Call

namespace Context

def take (c : Context) (call : Call) : StateT Frame Dice.Plan (Except RuleError Answer) :=
  c.carry (call.evaluation c).run

end Context

end Tabletop
