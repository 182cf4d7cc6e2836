import Tabletop.Dice.Plan

namespace Tabletop.Dice

inductive Refusal where
  | exhausted (sides : Nat)
  | misfit (face sides : Nat)
  deriving DecidableEq

def Refusal.message : Refusal → String
  | exhausted sides => "ScriptedDice ran out of faces (request for d" ++ toString sides ++ ")"
  | misfit face sides =>
    "scripted face " ++ toString face ++ " does not fit on a d" ++ toString sides

inductive Source where
  | script (faces : List Nat)
  /-- These numbers over and over, brought to the range of each die. -/
  | cycle (numbers : List Int) (drawn : Nat)

namespace Source

def draw (sides : Nat) : Source → Except Refusal Nat × Source
  | script [] => (.error (.exhausted sides), script [])
  | script (face :: faces) =>
    (if 1 ≤ face ∧ face ≤ sides then .ok face else .error (.misfit face sides), script faces)
  | cycle numbers drawn =>
    let c := (numbers[drawn % numbers.length]?).getD 1
    (.ok (((c - 1) % sides).toNat + 1), cycle numbers (drawn + 1))

end Source

structure Run (α : Type u) where
  outcome : Except Refusal α
  requests : List Nat
  source : Source

namespace Plan

def run : Plan α → Source → Run α
  | done a, s => ⟨.ok a, [], s⟩
  | draw sides next, s =>
    match s.draw sides with
    | (.ok face, s') =>
      let r := (next face).run s'
      { r with requests := sides :: r.requests }
    | (.error e, s') => ⟨.error e, [sides], s'⟩

end Plan

end Tabletop.Dice
