import Tabletop.Store
import Tabletop.Rule.Rulebook

namespace Tabletop

namespace Store

def reads (b : Rulebook) (setting : Setting) : List VariableRef :=
  setting.refs ++
    match setting, setting.invocation? with
    | .number (.summation id), _ => ((b.summation? id).map Summation.refs).getD []
    | _, some i => b.readBy i.program
    | _, none => []

def expand (s : Store) : VariableRef → List VariableId
  | .id i => [i]
  | .tag t => (s.tagged t).map Variable.id

def dependenciesOf (s : Store) (b : Rulebook) (v : Variable) : VariableIds :=
  .ofList ((reads b v.setting).flatMap s.expand)

def dependencies (s : Store) (b : Rulebook) (id : VariableId) : Except RuleError VariableIds := do
  return s.dependenciesOf b (← s.get id)

def firstFound (visit : List VariableId → VariableId → Option α × List VariableId)
    (done : List VariableId) : List VariableId → Option α × List VariableId
  | [] => (none, done)
  | id :: ids =>
    match visit done id with
    | (some found, done) => (some found, done)
    | (none, done) => firstFound visit done ids

/-- Looks for a cycle below a variable. `path` leads there, nearest first, and nothing below the
variables in `done` is on a cycle. -/
def visit (s : Store) (b : Rulebook) (path done : List VariableId) (id : VariableId) :
    Option (List VariableId) × List VariableId :=
  if _hid : id ∈ path then (some (id :: (path.takeWhile (· ≠ id)).reverse ++ [id]), done)
  else if id ∈ done then (none, done)
  else
    match _hv : s.get? id with
    | none => (none, done)
    | some v =>
      match firstFound (fun done dep => visit s b (id :: path) done dep) done
          (s.dependenciesOf b v).toList with
      | (some cycle, done) => (some cycle, done)
      | (none, done) => (none, id :: done)
termination_by unvisited s.ids path
decreasing_by exact unvisited_cons_lt (mem_ids_of_get? _hv) _hid

/-- A cycle that a variable leads to, from one of its variables back to it. -/
def findCycle (s : Store) (b : Rulebook) (id : VariableId) : Option (List VariableId) :=
  (s.visit b [] [] id).1

end Store

end Tabletop
