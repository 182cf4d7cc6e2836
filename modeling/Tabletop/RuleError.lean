import Tabletop.Reference

namespace Tabletop

inductive Nesting where
  | variable
  | invocation
  | valueSet
  deriving DecidableEq

def Nesting.label : Nesting → String
  | .variable => "variable"
  | invocation => "invocation"
  | valueSet => "value set"

inductive SignatureFault where
  | arity (expected found : Nat)
  | parameter (position : Nat) (types : Mismatch)
  | result (types : Mismatch)
  deriving DecidableEq

def SignatureFault.message : SignatureFault → String
  | arity expected found =>
    "expected " ++ toString expected ++ " arguments, got " ++ toString found
  | parameter position types =>
    "parameter " ++ toString position ++ " expects " ++ types.expected.label ++ ", got " ++
      types.found.label
  | result types => "result should be " ++ types.expected.label ++ ", got " ++ types.found.label

inductive RuleError where
  | mismatch (types : Mismatch)
  | signature (target : String) (fault : SignatureFault)
  | unknownVariable (id : VariableId)
  | ambiguous (tag : Tag) (count : Nat)
  | unknownEntry (ref : EntryRef)
  | unknownValueSet (id : ValueSetId)
  | cyclicValueSet (id : ValueSetId)
  | noMatchingRow (function : FunctionId)
  | unknownFunction (id : FunctionId)
  | unknownProgram (id : ProgramId)
  | unknownSummation (id : SummationId)
  | forwardReference (program : ProgramId) (statement : Nat) (binding : String)
  | unboundResult (program : ProgramId) (binding : String)
  | cyclicInvocation (program : ProgramId)
  | cyclicVariable (id : VariableId)
  | dice (fault : Dice.Fault)
  | valueNotSet (id : VariableId)
  | noParameter (program : ProgramId) (index : UInt64)
  | tooManyParameters (count limit : Nat)
  | historyUnsupported (id : VariableId)
  | duplicateVariable (id : VariableId)
  | tooDeep (nesting : Nesting) (limit : UInt64)
  deriving DecidableEq

namespace RuleError

def message : RuleError → String
  | mismatch types =>
    "Type mismatch: expected " ++ types.expected.label ++ ", found " ++ types.found.label
  | signature target fault => "Type signature mismatch in " ++ target ++ ": " ++ fault.message
  | unknownVariable id => "Unknown variable: " ++ id.text
  | ambiguous tag n =>
    "Tag '" ++ tag ++ "' matches " ++ toString n ++ " variables where exactly one is required"
  | unknownEntry r => "Unknown value '" ++ r.entry ++ "' in value set '" ++ r.valueSet ++ "'"
  | unknownValueSet id => "Unknown value set: " ++ id
  | cyclicValueSet id => "Value set '" ++ id ++ "' includes itself"
  | noMatchingRow f => "No tuple of function '" ++ f ++ "' matches the arguments"
  | unknownFunction id => "Unknown function: " ++ id
  | unknownProgram id => "Unknown program: " ++ id
  | unknownSummation id => "Unknown summation: " ++ id
  | forwardReference p i b =>
    "Statement " ++ toString i ++ " of program '" ++ p ++ "' reads '" ++ b ++ "' before it is bound"
  | unboundResult p b => "Program '" ++ p ++ "' never binds its result '" ++ b ++ "'"
  | cyclicInvocation p => "Program '" ++ p ++ "' is invoked while it is already running"
  | cyclicVariable id => "Variable " ++ id.text ++ " depends on itself"
  | dice f => f.message
  | valueNotSet id => "Variable " ++ id.text ++ " has no value yet"
  | noParameter p i => "Program '" ++ p ++ "' has no parameter " ++ toString i.toNat
  | tooManyParameters n limit =>
    toString n ++ " parameters given, at most " ++ toString limit ++ " are allowed"
  | historyUnsupported id => "Variable " ++ id.text ++ " does not keep a history"
  | duplicateVariable id => "Variable " ++ id.text ++ " is already defined"
  | tooDeep what limit =>
    "Evaluation exceeded the " ++ what.label ++ " depth limit of " ++ toString limit.toNat

end RuleError

end Tabletop
