import Tabletop.Reference

/-!
Variables of a sheet: typed slots, each set to a literal or to where its value comes from. Number
variables keep every assignment.
-/

namespace Tabletop

inductive BooleanSetting where
  | literal (b : Bool)
  | program (i : Invocation)
  deriving DecidableEq

inductive NumberSetting where
  | literal (x : Float)
  | unknown
  | variable (id : VariableId)
  | program (i : Invocation)
  | entry (r : EntryRef)
  | summation (id : SummationId)
  deriving DecidableEq

inductive TextSetting where
  | literal (s : String)
  | unknown
  | entry (r : EntryRef)
  | program (i : Invocation)
  | choice (id : ValueSetId)
  deriving DecidableEq

inductive DiceSetting where
  | literal (r : Dice.Roll)
  deriving DecidableEq

inductive Setting where
  | boolean (s : BooleanSetting)
  | number (s : NumberSetting)
  | text (s : TextSetting)
  | diceRoll (s : DiceSetting)
  deriving DecidableEq

namespace Setting

def type : Setting → ValueType
  | boolean _ => .boolean
  | number _ => .number
  | text _ => .text
  | diceRoll _ => .diceRoll

def invocation? : Setting → Option Invocation
  | boolean (.program i) | number (.program i) | text (.program i) => some i
  | _ => none

def refs (s : Setting) : List VariableRef :=
  match s with
  | number (.variable id) => [.id id]
  | s => (s.invocation?.map Invocation.refs).getD []

end Setting

structure Assignment where
  setting : NumberSetting
  description : Option String := none
  deriving DecidableEq

structure Variable where
  id : VariableId
  label : String
  description : String := ""
  tags : Sorted Tag compare := ∅
  setting : Setting
  history : List Assignment := []
  deriving DecidableEq

namespace Variable

def type (v : Variable) : ValueType := v.setting.type

def order : Variable → Variable → Ordering := compareOn fun v => v.id.key

instance : Std.TransCmp order := inferInstanceAs (Std.TransCmp (compareOn _))

def hasTag (v : Variable) (t : Tag) : Bool := v.tags.toList.contains t

/-- Only number variables have a history. -/
def withHistory? (v : Variable) (history : List Assignment) : Option Variable :=
  if v.type ≠ .number ∧ history ≠ [] then none else some { v with history }

end Variable

end Tabletop
