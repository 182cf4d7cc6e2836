import Tabletop.Sheet

/-!
Changes to a sheet in play. They are made in place: a change that stops half-way leaves behind what
it has already done.
-/

namespace Tabletop

namespace Sheet

inductive Change where
  | insert (v : Variable)
  | set (id : VariableId) (setting : Setting)
  | record (id : VariableId) (a : Assignment)
  | assign (id : VariableId) (x : Float) (description : Option String)
  | activate

abbrev Change.Result := Except RuleError Unit × Sheet

def edit (s : Sheet) (f : Store → Except RuleError Store) : Change.Result :=
  match f s.store with
  | .ok store => (.ok (), { s with store })
  | .error e => (.error e, s)

def make (s : Sheet) : Change → Dice.Plan Change.Result
  | .insert v => return s.edit (·.insert v)
  | .set id setting => return s.edit (·.set id setting)
  | .record id a => return s.edit (·.record id a)
  | .assign id x description =>
    match s.edit (·.set id (.number (.literal x))) with
    | (.ok (), s) => return s.edit (·.record id ⟨.literal x, description⟩)
    | stopped => return stopped
  | .activate => return (.ok (), (← s.activate).2)

/-- Makes changes one after another, whether or not the ones before have failed. -/
def makeAll (s : Sheet) : List Change → Dice.Plan Sheet
  | [] => return s
  | x :: xs => do (← s.make x).2.makeAll xs

end Sheet

end Tabletop
