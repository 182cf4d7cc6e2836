import Tabletop.Json.Basic

/-!
Records with known fields: how they are written, and how they are read back. A known field occurs
at most once, and fields that are not known do not count.
-/

namespace Tabletop.Json

def text? : Json → Option String
  | .text s => some s
  | _ => none

def bool? : Json → Option Bool
  | .bool b => some b
  | _ => none

def float? : Json → Option Float
  | .number n => some n.toFloat
  | _ => none

def int? (low high : Int) : Json → Option Int
  | .number (.whole n) => if low ≤ n ∧ n ≤ high then some n else none
  | _ => none

def nat? (size : Nat) (j : Json) : Option Nat := (j.int? 0 (size - 1)).map Int.toNat

def int32? (j : Json) : Option Int32 :=
  (j.int? Int32.minValue.toInt Int32.maxValue.toInt).map Int32.ofInt

def uint64? (j : Json) : Option UInt64 := (j.nat? UInt64.size).map UInt64.ofNat

def listOf? (read : Json → Option α) : Json → Option (List α)
  | .list items => items.mapM read
  | _ => none

def recordFields? (known : List String) : Json → Option (List (String × Json))
  | .record fields =>
    if known.all fun k => fields.countP (·.1 = k) ≤ 1 then some fields else none
  | _ => none

/-- In place of a record there may be a list of what is in its first fields. -/
def fields? (known : List String) : Json → Option (List (String × Json))
  | .list items => if items.length ≤ known.length then some (known.zip items) else none
  | j => j.recordFields? known

section Reading

variable (fields : List (String × Json)) (key : String) (read : Json → Option α)

def required? : Option α := (fields.lookup key).bind read

/-- An absent field and an empty one are the same. -/
def optional? : Option (Option α) :=
  match fields.lookup key with
  | none | some .null => some none
  | some j => (read j).map some

def defaulted? (value : α) : Option α :=
  match fields.lookup key with
  | none => some value
  | some j => read j

end Reading

def onlyField? : Json → Option (String × Json)
  | .record [field] => some field
  | _ => none

/-- The name of a case to which nothing belongs: the name alone, or a record that holds nothing
under the name. -/
def case? : Json → Option String
  | .text s => some s
  | .record [(s, .null)] => some s
  | _ => none

/-- The name of a case and what belongs to it, in a record or as the two items of a list. -/
def tagged? (tag content : String) : Json → Option (String × Option Json)
  | .list [name, held] => do return (← name.text?, some held)
  | j => do
    let fields ← j.recordFields? [tag, content]
    return (← required? fields tag case?, fields.lookup content)

/-- The name of a case, and the record in which its fields stand beside the name or the list of what
comes after it. -/
def labelled? (tag : String) : Json → Option (String × Json)
  | .list (name :: items) => do return (← name.text?, .list items)
  | j => do return (← required? (← j.recordFields? [tag]) tag text?, j)

def tagged (tag content name : String) (j : Json) : Json :=
  .record [(tag, .text name), (content, j)]

def optionalField (key : String) (write : α → Json) : Option α → List (String × Json)
  | some a => [(key, write a)]
  | none => []

def single (key : String) (j : Json) : Json := .record [(key, j)]

end Tabletop.Json
