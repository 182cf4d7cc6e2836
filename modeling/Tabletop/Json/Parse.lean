import Tabletop.Json.Token

/-!
JSON text as a value. The tokens are read one by one; what is still open is kept on a stack of at
most `deepest` containers.
-/

namespace Tabletop.Json

/-- A container that is still open: the items before the current one, last first, or the fields
before the current one and its key. -/
inductive Context where
  | items (before : List Json)
  | field (before : List (String × Json)) (key : String)

inductive Progress where
  | value (outer : List Context)
  | firstItem (outer : List Context)
  | firstKey (outer : List Context)
  | key (before : List (String × Json)) (outer : List Context)
  | colon (before : List (String × Json)) (key : String) (outer : List Context)
  | complete (j : Json) (outer : List Context)

namespace Progress

def deepest : Nat := 127

def enter (σ : List Context) : Token → Option Progress
  | .text s => some (complete (.text s) σ)
  | .word j => some (complete j σ)
  | .openList => if σ.length < deepest then some (firstItem σ) else none
  | .openRecord => if σ.length < deepest then some (firstKey σ) else none
  | _ => none

def step : Progress → Token → Option Progress
  | value σ, t => enter σ t
  | firstItem σ, .closeList => some (complete (.list []) σ)
  | firstItem σ, t => enter (.items [] :: σ) t
  | firstKey σ, .closeRecord => some (complete (.record []) σ)
  | firstKey σ, .text k => some (colon [] k σ)
  | key before σ, .text k => some (colon before k σ)
  | colon before k σ, .colon => some (value (.field before k :: σ))
  | complete j (.items before :: σ), .comma => some (value (.items (j :: before) :: σ))
  | complete j (.items before :: σ), .closeList => some (complete (.list (j :: before).reverse) σ)
  | complete j (.field before k :: σ), .comma => some (key ((k, j) :: before) σ)
  | complete j (.field before k :: σ), .closeRecord =>
    some (complete (.record ((k, j) :: before).reverse) σ)
  | _, _ => none

def result? : Progress → Option Json
  | complete j [] => some j
  | _ => none

end Progress

def parse? (text : String) : Option Json := do
  let tokens ← Token.scan text.toList
  (← tokens.foldlM Progress.step (.value [])).result?

end Tabletop.Json
