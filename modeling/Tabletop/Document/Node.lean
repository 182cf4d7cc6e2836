import Tabletop.Decimal.Shortest
import Tabletop.Json.Basic
import Tabletop.Rule.Table
import Tabletop.Text.Basic

/-!
Nodes of a document: a value together with the path that leads to it, so that an error can say
where it is. An empty entry of a record is the same as none.
-/

namespace Tabletop.Document

inductive Kind where
  | dict
  | list
  | text
  | number
  | boolean
  | null
  deriving DecidableEq

namespace Kind

def label : Kind → String
  | dict => "dict"
  | list => "list"
  | text => "text"
  | number => "number"
  | boolean => "boolean"
  | null => "null"

def of : Json → Kind
  | .record _ => dict
  | .list _ => list
  | .text _ => text
  | .number _ => number
  | .bool _ => boolean
  | .null => null

end Kind

inductive Step where
  | key (k : String)
  | index (i : Nat)
  deriving DecidableEq

abbrev Path := List Step

def Step.text : Step → String
  | key k => "." ++ k
  | index i => "[" ++ toString i ++ "]"

def Path.text (p : Path) : String := "$" ++ String.join (p.map Step.text)

inductive Defect where
  | kind (expected found : Kind)
  | value (shown : String)
  | unknownCase (case : String)
  | missingKey (key : String)
  deriving DecidableEq

structure DecodeError where
  path : Path
  defect : Defect
  deriving DecidableEq

namespace DecodeError

def message (e : DecodeError) : String :=
  e.path.text ++ match e.defect with
    | .kind expected found => ": expected " ++ expected.label ++ ", found " ++ found.label
    | .value shown => ": unexpected value " ++ shown
    | .unknownCase case => ": unknown case '" ++ case ++ "'"
    | .missingKey key => ": missing key '" ++ key ++ "'"

end DecodeError

abbrev Decoded := Except DecodeError

structure Node where
  path : Path := []
  json : Json

namespace Node

def fail (n : Node) (d : Defect) : Decoded α := .error ⟨n.path, d⟩

def unexpected (n : Node) (expected : Kind) : Decoded α := n.fail (.kind expected (.of n.json))

def unexpectedValue (n : Node) (shown : String) : Decoded α := n.fail (.value shown)

def dict (n : Node) : Decoded (List (String × Json)) :=
  match n.json with
  | .record fields => .ok fields
  | _ => n.unexpected .dict

def maybeAt (n : Node) (key : String) : Decoded (Option Node) := do
  match (← n.dict).lookup key with
  | none | some .null => return none
  | some j => return some ⟨n.path ++ [.key key], j⟩

def child (n : Node) (key : String) : Decoded Node := do
  match ← n.maybeAt key with
  | some m => return m
  | none => n.fail (.missingKey key)

def text (n : Node) : Decoded String :=
  match n.json with
  | .text s => .ok s
  | _ => n.unexpected .text

def number (n : Node) : Decoded Float :=
  match n.json with
  | .number x => .ok x.toFloat
  | _ => n.unexpected .number

def integer (n : Node) : Decoded Int := do
  let x ← n.number
  match Decimal.whole? x with
  | some i => return Word.clamp i
  | none => n.unexpectedValue (Text.number x)

def int32 (n : Node) : Decoded Int32 := do
  let i ← n.integer
  if Word.fits i then return Int32.ofInt i else n.unexpectedValue (toString i)

def boolean (n : Node) : Decoded Bool :=
  match n.json with
  | .bool b => .ok b
  | _ => n.unexpected .boolean

def nodesFrom (path : Path) (i : Nat) : List Json → List Node
  | [] => []
  | j :: js => ⟨path ++ [.index i], j⟩ :: nodesFrom path (i + 1) js

def list (n : Node) : Decoded (List Node) :=
  match n.json with
  | .list items => .ok (nodesFrom n.path 0 items)
  | _ => n.unexpected .list

def case (n : Node) : Decoded String := do (← n.child "case").text

def unknownCase (n : Node) (case : String) : Decoded α :=
  .error ⟨n.path ++ [.key "case"], .unknownCase case⟩

def textAt (n : Node) (key : String) : Decoded String := do (← n.child key).text

def maybe (read : Node → Decoded α) (n : Node) (key : String) : Decoded (Option α) := do
  match ← n.maybeAt key with
  | some m => return some (← read m)
  | none => return none

def maybeTextAt (n : Node) (key : String) : Decoded (Option String) := n.maybe text key

def listAt (read : Node → Decoded α) (n : Node) (key : String) : Decoded (List α) := do
  match ← n.maybeAt key with
  | some m => (← m.list).mapM read
  | none => return []

def position? (before after : String) (key : String) : Option UInt64 :=
  let cs := key.toList
  let b := before.toList
  let a := after.toList
  if b.isPrefixOf cs ∧ a.isSuffixOf (cs.drop b.length) then
    Text.word? ((cs.drop b.length).take (cs.length - b.length - a.length))
  else none

def checkPositions (n : Node) (before after : String) : List String → Decoded Unit
  | [] => return ()
  | key :: keys => do
    match position? before after key with
    | some i =>
      if i = 0 ∨ maxParameters < i.toNat then
        if let some m ← n.maybeAt key then
          m.unexpectedValue ("'" ++ key ++ "' is out of range")
    | none => pure ()
    checkPositions n before after keys

def numberedFrom (n : Node) (before after : String) (i : Nat) : Nat → Bool → Decoded (List Node)
  | 0, _ => return []
  | count + 1, gap => do
    let key := before ++ toString i ++ after
    match ← n.maybeAt key with
    | some m =>
      if gap then m.unexpectedValue ("'" ++ key ++ "' is out of sequence")
      else return m :: (← numberedFrom n before after (i + 1) count false)
    | none => numberedFrom n before after (i + 1) count true

def positional (n : Node) (before after : String) : Decoded (List Node) := do
  n.checkPositions before after ((← n.dict).map Prod.fst)
  n.numberedFrom before after 1 maxParameters false

def parameters (read : Node → Decoded α) (n : Node) : Decoded (List α) := do
  (← n.positional "parameter" "").mapM read

end Node

def decode (read : Node → Decoded α) (j : Json) : Decoded α := read { json := j }

end Tabletop.Document
