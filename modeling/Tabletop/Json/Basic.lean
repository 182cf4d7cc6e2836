namespace Tabletop

inductive Json.Number where
  | whole (n : Int)
  | float (x : Float)
  deriving DecidableEq

inductive Json where
  | null
  | bool (b : Bool)
  | number (n : Json.Number)
  | text (s : String)
  | list (items : List Json)
  | record (fields : List (String × Json))
  deriving Inhabited

namespace Json

namespace Number

def toFloat : Number → Float
  | whole n => Float.ofInt n
  | float x => x

end Number

def whole (n : Int) : Json := .number (.whole n)

def float (x : Float) : Json := if x.isFinite then .number (.float x) else .null

/-- Puts a field before those that follow it; a later field of the same key stays. -/
def insertField (k : String) (j : Json) : List (String × Json) → List (String × Json)
  | [] => [(k, j)]
  | (k', j') :: rest =>
    match compare k k' with
    | .lt => (k, j) :: (k', j') :: rest
    | .eq => (k', j') :: rest
    | .gt => (k', j') :: insertField k j rest

mutual

def sortKeys : Json → Json
  | .list items => .list (sortItems items)
  | .record fields => .record (sortFields fields)
  | j => j

def sortItems : List Json → List Json
  | [] => []
  | j :: js => sortKeys j :: sortItems js

def sortFields : List (String × Json) → List (String × Json)
  | [] => []
  | (k, j) :: rest => insertField k (sortKeys j) (sortFields rest)

end

end Json

end Tabletop
