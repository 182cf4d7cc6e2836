import Tabletop.RuleError
import Tabletop.Unvisited
import Tabletop.Variable

/-!
Value sets: named collections of entries to choose from. A base set holds entries of its own; a
compound set stands for the entries of other sets.
-/

namespace Tabletop

structure Citation where
  chapter : String
  heading : Option String := none
  subheading : Option String := none
  deriving DecidableEq

def Citation.text (c : Citation) : String :=
  " > ".intercalate (c.chapter :: (c.heading.toList ++ c.subheading.toList))

inductive Payload where
  | number (x : Float)
  | text (s : String)
  deriving DecidableEq

namespace Payload

def value : Payload → Value
  | number x => .number x
  | text s => .text s

end Payload

structure Entry where
  id : EntryId
  valueSet : ValueSetId
  description : String := ""
  citation : Option Citation := none
  gains : List Variable := []
  payload : Payload
  deriving DecidableEq

namespace Entry

def value (e : Entry) : Value := e.payload.value

def ref (e : Entry) : EntryRef := ⟨e.valueSet, e.id⟩

end Entry

inductive Members where
  | base (entries : List Entry)
  | compound (sets : List ValueSetId)
  deriving DecidableEq

structure ValueSet where
  id : ValueSetId
  label : String
  labelSingular : String := label
  description : String := ""
  valueType : Option ValueType := none
  members : Members
  deriving DecidableEq

namespace ValueSet

def order : ValueSet → ValueSet → Ordering := compareOn ValueSet.id

instance : Std.TransCmp order := inferInstanceAs (Std.TransCmp (compareOn _))

def isCompound (s : ValueSet) : Bool :=
  match s.members with
  | .base _ => false
  | .compound _ => true

/-- Adds an entry to a base set, which becomes its owner. The first entry of each id stays. -/
def addEntry (s : ValueSet) (e : Entry) : ValueSet :=
  match s.members with
  | .base entries =>
    if entries.any (·.id = e.id) then s
    else { s with members := .base (entries ++ [{ e with valueSet := s.id }]) }
  | .compound _ => s

def addMember (s : ValueSet) (id : ValueSetId) : ValueSet :=
  match s.members with
  | .base _ => s
  | .compound sets => if id ∈ sets then s else { s with members := .compound (sets ++ [id]) }

def empty (s : ValueSet) : ValueSet :=
  { s with members := if s.isCompound then .compound [] else .base [] }

def addMembers (s : ValueSet) : Members → ValueSet
  | .base entries => entries.foldl addEntry s
  | .compound sets => sets.foldl addMember s

end ValueSet

abbrev ValueSets := Sorted ValueSet ValueSet.order

namespace ValueSets

def get? (sets : ValueSets) (id : ValueSetId) : Option ValueSet := sets.toList.find? (·.id = id)

def ids (sets : ValueSets) : List ValueSetId := sets.toList.map ValueSet.id

theorem mem_ids_of_get? {sets : ValueSets} {id : ValueSetId} {s : ValueSet}
    (h : sets.get? id = some s) : id ∈ sets.ids :=
  List.mem_map.2 ⟨s, List.mem_of_find?_eq_some h, by simpa using List.find?_some h⟩

/-- Adds the entries of a set and of the sets inside it to `found`, first come first. The sets in
`opened` are those that the set is nested in. -/
def collect (sets : ValueSets) (limit : UInt64) (opened : List ValueSetId) (found : List Entry)
    (id : ValueSetId) : Except RuleError (List Entry) :=
  if _hid : id ∈ opened then .error (.cyclicValueSet id)
  else
    match _hs : sets.get? id with
    | none => .error (.unknownValueSet id)
    | some s =>
      match s.members with
      | .base entries =>
        .ok (entries.foldl (fun found e => if found.any (·.id = e.id) then found else found ++ [e])
          found)
      | .compound members =>
        if limit.toNat ≤ opened.length then .error (.tooDeep .valueSet limit)
        else members.foldlM (collect sets limit (id :: opened)) found
termination_by unvisited sets.ids opened
decreasing_by exact unvisited_cons_lt (mem_ids_of_get? _hs) _hid

def entries (sets : ValueSets) (limit : UInt64) (id : ValueSetId) :
    Except RuleError (List Entry) := sets.collect limit [] [] id

def lookup (sets : ValueSets) (limit : UInt64) (r : EntryRef) : Except RuleError Entry := do
  match (← sets.entries limit r.valueSet).find? (·.id = r.entry) with
  | some e => return e
  | none => throw (.unknownEntry r)

def usualLimit : UInt64 := 32

end ValueSets

end Tabletop
