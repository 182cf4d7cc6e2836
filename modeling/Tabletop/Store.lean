import Tabletop.RuleError
import Tabletop.Variable

/-!
The variables of a sheet, by name. Settings change only through `set` and histories only through
`record`, which check the variable's type first.
-/

namespace Tabletop

structure Store where
  slots : Sorted Variable Variable.order := ∅
  deriving DecidableEq

namespace Store

def get? (s : Store) (id : VariableId) : Option Variable := s.slots.toList.find? (·.id = id)

def get (s : Store) (id : VariableId) : Except RuleError Variable :=
  match s.get? id with
  | some v => .ok v
  | none => .error (.unknownVariable id)

theorem get_eq_ok {s : Store} {id : VariableId} {v : Variable} :
    s.get id = .ok v ↔ s.get? id = some v := by
  rw [get]
  split <;> simp_all

def ids (s : Store) : List VariableId := s.slots.toList.map Variable.id

theorem id_of_get? {s : Store} {id : VariableId} {v : Variable} (h : s.get? id = some v) :
    v.id = id := by simpa using List.find?_some h

theorem mem_ids_of_get? {s : Store} {id : VariableId} {v : Variable} (h : s.get? id = some v) :
    id ∈ s.ids := List.mem_map.2 ⟨v, List.mem_of_find?_eq_some h, id_of_get? h⟩

theorem ids_nodup (s : Store) : s.ids.Nodup :=
  s.slots.nodup_map Variable.id fun a b h => by
    simp [Variable.order, compareOn, h, Std.ReflCmp.compare_self]

def contains (s : Store) (id : VariableId) : Bool := (s.get? id).isSome

def insert (s : Store) (v : Variable) : Except RuleError Store :=
  if s.contains v.id then .error (.duplicateVariable v.id)
  else .ok ⟨s.slots.insert v⟩

def ofVariables (vs : List Variable) : Except RuleError Store := vs.foldlM insert {}

def set (s : Store) (id : VariableId) (setting : Setting) : Except RuleError Store := do
  let v ← s.get id
  if v.type = setting.type then return ⟨s.slots.replace { v with setting }⟩
  else throw (.mismatch ⟨v.type, setting.type⟩)

def record (s : Store) (id : VariableId) (a : Assignment) : Except RuleError Store := do
  let v ← s.get id
  if v.type = .number then return ⟨s.slots.replace { v with history := v.history ++ [a] }⟩
  else throw (.historyUnsupported id)

def assign (s : Store) (id : VariableId) (x : Float) (description : Option String) :
    Except RuleError Store := do
  (← s.set id (.number (.literal x))).record id ⟨.literal x, description⟩

def tagged (s : Store) (t : Tag) : List Variable := s.slots.toList.filter (·.hasTag t)

def resolve (s : Store) : VariableRef → Except RuleError (List Variable)
  | .id i => do return [← s.get i]
  | .tag t => .ok (s.tagged t)

def resolveSingle (s : Store) : VariableRef → Except RuleError Variable
  | .id i => s.get i
  | .tag t =>
    match s.tagged t with
    | [v] => .ok v
    | vs => .error (.ambiguous t vs.length)

end Store

end Tabletop
