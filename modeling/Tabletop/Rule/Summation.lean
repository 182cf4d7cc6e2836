import Tabletop.Json.Print
import Tabletop.Stored.Reference

/-!
Summations: named totals of number, dice and conditional terms. The terms form a set, kept in the
order in which they are evaluated.
-/

namespace Tabletop

inductive Term where
  | number (value : NumberRef)
  | diceRoll (value : DiceRef)
  | conditional (condition : BooleanRef) (whenTrue whenFalse : NumberRef)
  deriving DecidableEq

structure NamedTerm where
  name : Option String := none
  term : Term
  deriving DecidableEq

namespace Term

def kind : Term → String
  | number _ => "number"
  | diceRoll _ => "dice_roll"
  | conditional .. => "conditional"

def rank : Term → Nat
  | number _ => 0
  | diceRoll _ => 1
  | conditional .. => 2

def refs : Term → List VariableRef
  | number r => r.refs
  | diceRoll r => r.refs
  | conditional c t f => c.refs ++ t.refs ++ f.refs

def fields : Term → List (String × Json)
  | number r => [("value", r.toJson)]
  | diceRoll r => [("value", r.toJson)]
  | conditional c t f =>
    [("condition", c.toJson), ("when_true", t.toJson), ("when_false", f.toJson)]

end Term

namespace NamedTerm

def toJson (t : NamedTerm) : Json :=
  .record <|
    ("kind", .text t.term.kind) :: Json.optionalField "name" .text t.name ++ t.term.fields

def ofJson? (j : Json) : Option NamedTerm := do
  let (kind, rest) ← j.labelled? "kind"
  match kind with
  | "number" =>
    let fields ← rest.fields? ["name", "value"]
    return ⟨← Json.optional? fields "name" Json.text?,
      .number (← Json.required? fields "value" NumberRef.ofJson?)⟩
  | "dice_roll" =>
    let fields ← rest.fields? ["name", "value"]
    return ⟨← Json.optional? fields "name" Json.text?,
      .diceRoll (← Json.required? fields "value" DiceRef.ofJson?)⟩
  | "conditional" =>
    let fields ← rest.fields? ["name", "condition", "when_true", "when_false"]
    return ⟨← Json.optional? fields "name" Json.text?,
      .conditional (← Json.required? fields "condition" BooleanRef.ofJson?)
        (← Json.required? fields "when_true" NumberRef.ofJson?)
        (← Json.required? fields "when_false" NumberRef.ofJson?)⟩
  | _ => none

def refs (t : NamedTerm) : List VariableRef := t.term.refs

/-- Terms without a name come first, then names in order; within a name numbers, dice and
conditionals; within a kind the stored text decides. -/
def order : NamedTerm → NamedTerm → Ordering :=
  compareLex (compareOn name)
    (compareLex (compareOn fun t => t.term.rank) (compareOn fun t => t.toJson.compact))

instance : Std.TransCmp order := inferInstanceAs (Std.TransCmp (compareLex _ _))

end NamedTerm

structure Summation where
  id : SummationId
  name : String
  terms : Sorted NamedTerm NamedTerm.order := ∅
  deriving DecidableEq

namespace Summation

def order : Summation → Summation → Ordering := compareOn Summation.id

instance : Std.TransCmp order := inferInstanceAs (Std.TransCmp (compareOn _))

def addTerm (s : Summation) (t : NamedTerm) : Summation := { s with terms := s.terms.insert t }

theorem foldl_addTerm (ts : List NamedTerm) (s : Summation) :
    ts.foldl addTerm s = { s with terms := ts.foldl Sorted.insert s.terms } := by
  induction ts generalizing s with
  | nil => rfl
  | cons t ts ih => exact ih _

theorem terms_foldl (ts : List NamedTerm) (s : Summation) :
    (ts.foldl addTerm s).terms = ts.foldl Sorted.insert s.terms := by rw [foldl_addTerm]

def refs (s : Summation) : List VariableRef := s.terms.toList.flatMap NamedTerm.refs

def toJson (s : Summation) : Json :=
  .record [("id", .text s.id), ("name", .text s.name),
    ("terms", .list (s.terms.toList.map NamedTerm.toJson))]

def ofJson? (j : Json) : Option Summation := do
  let fields ← j.fields? ["id", "name", "terms"]
  let s : Summation := {
    id := ← Json.required? fields "id" Json.text?
    name := ← Json.required? fields "name" Json.text? }
  return (← Json.defaulted? fields "terms" (Json.listOf? NamedTerm.ofJson?) []).foldl addTerm s

end Summation

end Tabletop
