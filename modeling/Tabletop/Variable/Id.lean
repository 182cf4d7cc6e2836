import Tabletop.Sorted

namespace Tabletop

abbrev Tag := String

structure VariableId where
  scope : Option String := none
  name : String
  deriving DecidableEq, Inhabited

namespace VariableId

def key (id : VariableId) : List (Option String) := [id.scope, some id.name]

theorem key_injective {a b : VariableId} (h : a.key = b.key) : a = b := by
  cases a; cases b; simpa [key] using h

def order : VariableId → VariableId → Ordering := compareOn key

instance : Std.TransCmp order := inferInstanceAs (Std.TransCmp (compareOn _))

instance : Std.LawfulEqCmp order where
  eq_of_compare h := key_injective (Std.LawfulEqOrd.eq_of_compare h)

def text (id : VariableId) : String :=
  match id.scope with
  | some s => s ++ "::" ++ id.name
  | none => id.name

def cut? : List Char → Option (List Char × List Char)
  | [] => none
  | ':' :: ':' :: rest => some ([], rest)
  | c :: rest => (cut? rest).map fun (before, after) => (c :: before, after)

def parse (s : String) : VariableId :=
  match cut? s.toList with
  | some (scope, name) => ⟨some (String.ofList scope), String.ofList name⟩
  | none => ⟨none, s⟩

end VariableId

inductive VariableRef where
  | id (id : VariableId)
  | tag (tag : Tag)
  deriving DecidableEq

namespace VariableRef

def key : VariableRef → List (Option String)
  | .id i => none :: i.key
  | .tag t => [some t]

theorem key_injective {a b : VariableRef} (h : a.key = b.key) : a = b := by
  cases a <;> cases b <;> simp [key] at h
  · exact congrArg _ (VariableId.key_injective h)
  · exact congrArg _ h

def order : VariableRef → VariableRef → Ordering := compareOn key

instance : Std.TransCmp order := inferInstanceAs (Std.TransCmp (compareOn _))

instance : Std.LawfulEqCmp order where
  eq_of_compare h := key_injective (Std.LawfulEqOrd.eq_of_compare h)

def text : VariableRef → String
  | .id i => i.text
  | .tag t => "#" ++ t

end VariableRef

abbrev VariableRefs := Sorted VariableRef VariableRef.order

abbrev VariableIds := Sorted VariableId VariableId.order

end Tabletop
