import Tabletop.Dice.Roll
import Tabletop.Text.Basic
import Tabletop.Text.Lower

namespace Tabletop.Dice

inductive ExpressionError where
  | malformed (text : String)
  | dieSize (sides : Int32)
  | noDice
  deriving DecidableEq

def ExpressionError.message : ExpressionError → String
  | malformed text => "Invalid dice notation: " ++ text
  | dieSize sides => "Invalid die size: " ++ toString sides.toInt
  | noDice => "No dice specified"

namespace Expression

structure Part where
  negative : Bool
  text : List Char
  deriving DecidableEq

/-- Cuts at every sign and drops spaces; `current` is the component being read. -/
def split (negative : Bool) (current : List Char) : List Char → List Part
  | [] => if current.isEmpty then [] else [⟨negative, current⟩]
  | c :: rest =>
    if c = '+' ∨ c = '-' then
      (if current.isEmpty then [] else [⟨negative, current⟩]) ++ split (c = '-') [] rest
    else if c = ' ' then split negative current rest
    else split negative (current ++ [c]) rest

def number? (cs : List Char) : Option Int32 :=
  let n : Nat := cs.foldl (fun n c => n * 10 + (c.toNat - 48)) 0
  if cs.isEmpty ∨ !cs.all Char.isDigit ∨ !Word.fits n then none else some (Int32.ofNat n)

structure Tally where
  dice : List Quantity := []
  flat : Int32 := 0

def addDice? (sides count : Int32) : List Quantity → Option (List Quantity)
  | [] => some [⟨sides, count⟩]
  | q :: qs =>
    if q.sides = sides then
      if Word.fits (q.count.toInt + count.toInt) then some (⟨sides, q.count + count⟩ :: qs)
      else none
    else (addDice? sides count qs).map (q :: ·)

def Tally.addPart (t : Tally) (p : Part) : Except ExpressionError Tally :=
  let malformed := ExpressionError.malformed (String.ofList p.text)
  let before := p.text.takeWhile (· ≠ 'd')
  match p.text.dropWhile (· ≠ 'd') with
  | _ :: after =>
    if p.negative then .error (.malformed ("-" ++ String.ofList p.text))
    else
      match if before.isEmpty then some 1 else number? before, number? after with
      | some count, some sides =>
        if sides < 1 then .error (.dieSize sides)
        else
          match addDice? sides count t.dice with
          | some dice => .ok { t with dice }
          | none => .error (.malformed ("too many d" ++ toString sides.toInt))
      | _, _ => .error malformed
  | [] =>
    match number? p.text with
    | none => .error malformed
    | some n =>
      let value := if p.negative then -n.toInt else n.toInt
      let flat := t.flat.toInt + value
      if Word.fits flat then .ok { t with flat := Int32.ofInt flat }
      else .error (.malformed ("modifier out of range at " ++ String.ofList p.text))

def Tally.toRoll (t : Tally) : Roll where
  quantities := .ofList t.dice
  modifiers := if t.flat = 0 then ∅ else .ofList [⟨Float.ofInt t.flat.toInt, none⟩]

end Expression

open Expression in
/-- The roll that an expression describes. Dice of one size are counted together, and so are the
flat numbers. -/
def Roll.parse (text : String) : Except ExpressionError Roll := do
  let cs := Text.lower (Text.trim text.toList)
  let tally ← (split false [] cs).foldlM Tally.addPart {}
  if tally.dice.isEmpty ∧ tally.flat = 0 then .error .noDice else return tally.toRoll

end Tabletop.Dice
