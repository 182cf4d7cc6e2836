import Tabletop.Value
import Tabletop.Variable.Id

namespace Tabletop

abbrev ValueSetId := String
abbrev EntryId := String
abbrev ProgramId := String
abbrev FunctionId := String
abbrev SummationId := String

structure EntryRef where
  valueSet : ValueSetId
  entry : EntryId
  deriving DecidableEq

def EntryRef.text (r : EntryRef) : String := r.valueSet ++ "/" ++ r.entry

inductive BooleanRef where
  | literal (b : Bool)
  | variable (r : VariableRef)
  deriving DecidableEq

inductive NumberRef where
  | literal (x : Float)
  | variable (r : VariableRef)
  | entry (r : EntryRef)
  deriving DecidableEq

inductive DiceRef where
  | literal (r : Dice.Roll)
  | variable (r : VariableRef)
  deriving DecidableEq

inductive DataRef where
  | boolean (r : BooleanRef)
  | number (r : NumberRef)
  | diceRoll (r : DiceRef)
  deriving DecidableEq

structure Invocation where
  program : ProgramId
  arguments : List DataRef := []
  deriving DecidableEq

namespace BooleanRef

def refs : BooleanRef → List VariableRef
  | literal _ => []
  | .variable r => [r]

end BooleanRef

namespace NumberRef

def refs : NumberRef → List VariableRef
  | .variable r => [r]
  | _ => []

end NumberRef

namespace DiceRef

def refs : DiceRef → List VariableRef
  | literal _ => []
  | .variable r => [r]

end DiceRef

namespace DataRef

def type : DataRef → ValueType
  | boolean _ => .boolean
  | number _ => .number
  | diceRoll _ => .diceRoll

def refs : DataRef → List VariableRef
  | boolean r => r.refs
  | number r => r.refs
  | diceRoll r => r.refs

end DataRef

namespace Invocation

def refs (i : Invocation) : List VariableRef := i.arguments.flatMap DataRef.refs

end Invocation

end Tabletop
