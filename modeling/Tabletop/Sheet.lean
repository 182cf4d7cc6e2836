import Tabletop.Evaluation.Evaluator
import Tabletop.Sheet.Id

namespace Tabletop

abbrev Report := List (VariableId × Except RuleError Value)

namespace Report

def failures (r : Report) : Nat :=
  r.countP fun (_, result) => match result with
    | .ok _ => false
    | .error _ => true

end Report

structure Sheet extends Context where
  id : SheetId := {}

namespace Sheet

def value (s : Sheet) (id : VariableId) : ExceptT RuleError Dice.Plan Value :=
  ExceptT.mk (s.fresh (Evaluation.enter (.evaluate id)).run)

/-- Evaluates variables one after another. One that fails does not stop the others. -/
def report : List VariableId → Inquiry Report
  | [] => return []
  | id :: ids => do
    let result ← (Evaluation.enter (.evaluate id)).run
    return (id, result) :: (← report ids)

def evaluateAll (s : Sheet) : Dice.Plan Report := s.fresh (report s.store.ids)

/-- Decides which mechanics hold, one after another. One that cannot be decided does not hold. -/
def active : List Mechanic → Inquiry (List Mechanic)
  | [] => return []
  | m :: ms => do
    let holds ← m.isActive.run
    let rest ← active ms
    return match holds with
      | .ok true => m :: rest
      | _ => rest

def gain (s : Store) (v : Variable) : Store :=
  match s.insert v with
  | .ok s => s
  | .error _ => s

def activate (s : Sheet) : Dice.Plan (List MechanicId × Sheet) := do
  let ms ← s.fresh (active s.rulebook.mechanics)
  let store := (ms.flatMap Mechanic.gains).foldl gain s.store
  return (ms.map Mechanic.id, { s with store })

end Sheet

end Tabletop
