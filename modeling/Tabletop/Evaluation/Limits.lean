import Tabletop.Json.Fields
import Tabletop.Text.Basic

namespace Tabletop

structure Limits where
  invocations : UInt64 := 64
  evaluations : UInt64 := 128
  valueSets : UInt64 := 32
  dice : UInt64 := 10000
  deriving DecidableEq

namespace Limits

def settings : List String :=
  ["MAX_INVOCATION_DEPTH", "MAX_VARIABLE_DEPTH", "MAX_VALUE_SET_DEPTH", "MAX_DICE_PER_ROLL"]

def ofSettings (setting : String → Option String) : Limits :=
  let word (name : String) (usual : UInt64) : UInt64 :=
    ((setting name).bind fun s => Text.word? (Text.trim s.toList)).getD usual
  { invocations := word "MAX_INVOCATION_DEPTH" 64
    evaluations := word "MAX_VARIABLE_DEPTH" 128
    valueSets := word "MAX_VALUE_SET_DEPTH" 32
    dice := word "MAX_DICE_PER_ROLL" 10000 }

def toJson (l : Limits) : Json :=
  .record [("max_invocation_depth", .whole l.invocations.toNat),
    ("max_variable_depth", .whole l.evaluations.toNat),
    ("max_value_set_depth", .whole l.valueSets.toNat),
    ("max_dice_per_roll", .whole l.dice.toNat)]

def ofJson? (j : Json) : Option Limits := do
  let fields ← j.fields?
    ["max_invocation_depth", "max_variable_depth", "max_value_set_depth", "max_dice_per_roll"]
  return ⟨← Json.required? fields "max_invocation_depth" Json.uint64?,
    ← Json.required? fields "max_variable_depth" Json.uint64?,
    ← Json.required? fields "max_value_set_depth" Json.uint64?,
    ← Json.required? fields "max_dice_per_roll" Json.uint64?⟩

end Limits

end Tabletop
