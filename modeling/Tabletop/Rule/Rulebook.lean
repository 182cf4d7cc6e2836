import Tabletop.Rule.Program
import Tabletop.Rule.Summation
import Tabletop.Rule.ValueSet

namespace Tabletop

abbrev MechanicId := String

structure Mechanic where
  id : MechanicId
  label : String
  description : String := ""
  summary : String := ""
  category : Option String := none
  requirements : List VariableId := []
  gains : List Variable := []
  deriving DecidableEq

abbrev Tables := Sorted Table Table.order
abbrev Programs := Sorted Program Program.order
abbrev Summations := Sorted Summation Summation.order

structure Rulebook where
  name : String := ""
  valueSets : ValueSets := ∅
  functions : Tables := ∅
  programs : Programs := ∅
  summations : Summations := ∅
  mechanics : List Mechanic := []
  deriving DecidableEq

namespace Rulebook

def function? (b : Rulebook) (id : FunctionId) : Option Table :=
  b.functions.toList.find? (·.id = id)

def program? (b : Rulebook) (id : ProgramId) : Option Program :=
  b.programs.toList.find? (·.id = id)

def summation? (b : Rulebook) (id : SummationId) : Option Summation :=
  b.summations.toList.find? (·.id = id)

def mechanic? (b : Rulebook) (id : MechanicId) : Option Mechanic := b.mechanics.find? (·.id = id)

def programIds (b : Rulebook) : List ProgramId := b.programs.toList.map Program.id

theorem mem_programIds_of_program? {b : Rulebook} {id : ProgramId} {p : Program}
    (h : b.program? id = some p) : id ∈ b.programIds :=
  List.mem_map.2 ⟨p, List.mem_of_find?_eq_some h, by simpa using List.find?_some h⟩

theorem programIds_nodup (b : Rulebook) : b.programIds.Nodup :=
  b.programs.nodup_map Program.id fun a b h => by
    simp [Program.order, compareOn, h, Std.ReflCmp.compare_self]

def addValueSet (b : Rulebook) (s : ValueSet) : Rulebook :=
  { b with valueSets := b.valueSets.replace s }

def addFunction (b : Rulebook) (f : Table) : Rulebook :=
  { b with functions := b.functions.replace f }

def addProgram (b : Rulebook) (p : Program) : Rulebook :=
  { b with programs := b.programs.replace p }

def addSummation (b : Rulebook) (s : Summation) : Rulebook :=
  { b with summations := b.summations.replace s }

def addMechanic (b : Rulebook) (m : Mechanic) : Rulebook :=
  { b with mechanics :=
      if b.mechanics.any (·.id = m.id) then b.mechanics.map fun n => if n.id = m.id then m else n
      else b.mechanics ++ [m] }

/-- The programs that a program's statements run: a function hides the program of its name. -/
def calls (b : Rulebook) (p : Program) : List ProgramId :=
  p.applied.filter fun id => (b.function? id).isNone

/-- The variables that the pending programs read, and those that they call, each program once. -/
def readByAll (b : Rulebook) (visited : List ProgramId) : List ProgramId → List VariableRef
  | [] => []
  | id :: pending =>
    if _hid : id ∈ visited then readByAll b visited pending
    else
      match _hp : b.program? id with
      | none => readByAll b visited pending
      | some p => p.refs ++ readByAll b (id :: visited) (b.calls p ++ pending)
termination_by pending => (unvisited b.programIds visited, pending.length)
decreasing_by
  · exact .right _ (by simp)
  · exact .right _ (by simp)
  · exact .left _ _ (unvisited_cons_lt (mem_programIds_of_program? _hp) _hid)

def readBy (b : Rulebook) (id : ProgramId) : List VariableRef := b.readByAll [] [id]

end Rulebook

end Tabletop
