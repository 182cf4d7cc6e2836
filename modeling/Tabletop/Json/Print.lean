import Tabletop.Json.Basic
import Tabletop.Decimal.Layout
import Tabletop.Text.Basic

namespace Tabletop.Json

/-- Whole floats keep their point, an exponent takes the place of more than sixteen digits before
the point and more than four zeros behind it, and a half goes to the even digit. -/
def floatLayout : Decimal.Layout where
  plain weight := -5 ≤ weight ∧ weight < 16
  pointZero := true
  signedZero := true
  tie := .even

namespace Print

def escaped (c : Char) : List Char :=
  match c with
  | '"' => ['\\', '"']
  | '\\' => ['\\', '\\']
  | '\x08' => ['\\', 'b']
  | '\x0c' => ['\\', 'f']
  | '\n' => ['\\', 'n']
  | '\r' => ['\\', 'r']
  | '\t' => ['\\', 't']
  | c =>
    if c.toNat < 32 then
      ['\\', 'u', '0', '0', Text.hexDigit (c.toNat / 16), Text.hexDigit (c.toNat % 16)]
    else [c]

def quoted (s : String) : String :=
  String.ofList ('"' :: s.toList.flatMap escaped ++ ['"'])

def numberText : Number → String
  | .whole n => toString n
  | .float x => floatLayout.text x

mutual

def compact : Json → String
  | .null => "null"
  | .bool b => if b then "true" else "false"
  | .number n => numberText n
  | .text s => quoted s
  | .list items => "[" ++ ",".intercalate (compactItems items) ++ "]"
  | .record fields => "\x7b" ++ ",".intercalate (compactFields fields) ++ "\x7d"

def compactItems : List Json → List String
  | [] => []
  | j :: js => compact j :: compactItems js

def compactFields : List (String × Json) → List String
  | [] => []
  | (k, j) :: rest => (quoted k ++ ":" ++ compact j) :: compactFields rest

end

def indent (depth : Nat) : String := String.ofList ('\n' :: List.replicate (2 * depth) ' ')

def block (left right : String) (depth : Nat) (items : List String) : String :=
  if items.isEmpty then left ++ right
  else
    let inner := indent (depth + 1)
    left ++ inner ++ ("," ++ inner).intercalate items ++ indent depth ++ right

mutual

def pretty (depth : Nat) : Json → String
  | .list items => block "[" "]" depth (prettyItems (depth + 1) items)
  | .record fields => block "\x7b" "\x7d" depth (prettyFields (depth + 1) fields)
  | .null => "null"
  | .bool b => if b then "true" else "false"
  | .number n => numberText n
  | .text s => quoted s

def prettyItems (depth : Nat) : List Json → List String
  | [] => []
  | j :: js => pretty depth j :: prettyItems depth js

def prettyFields (depth : Nat) : List (String × Json) → List String
  | [] => []
  | (k, j) :: rest => (quoted k ++ ": " ++ pretty depth j) :: prettyFields depth rest

end

end Print

def compact (j : Json) : String := Print.compact j

def pretty (j : Json) : String := Print.pretty 0 j

end Tabletop.Json
