import Tabletop.Dice.Throw
import Tabletop.Evaluation.Limits
import Tabletop.Evaluation.Rules
import Tabletop.Store

/-!
The evaluator: it carries inquiries out and keeps two stacks, of the variables and of the programs
that it is inside of. It refuses to enter one of them again.
-/

namespace Tabletop

structure Context where
  rulebook : Rulebook
  store : Store
  limits : Limits := {}

structure Frame where
  evaluating : List VariableId := []
  running : List ProgramId := []
  deriving DecidableEq

/-- How a request is met: at once, or by an activity whose outcome is passed on. -/
inductive Reply (α : Type) where
  | now (p : Dice.Plan (Except RuleError α))
  | enter (a : Activity) (pass : Outcome → Except RuleError α)

namespace Frame

def enter (f : Frame) : Activity → Frame
  | .evaluate id => { f with evaluating := id :: f.evaluating }
  | .run id _ => { f with running := id :: f.running }

def leave (f : Frame) : Activity → Frame
  | .evaluate _ => { f with evaluating := f.evaluating.tail }
  | .run _ _ => { f with running := f.running.tail }

@[simp] theorem leave_enter (f : Frame) (a : Activity) : (f.enter a).leave a = f := by
  cases a <;> rfl

def room (f : Frame) (c : Context) : Nat :=
  unvisited c.store.ids f.evaluating + unvisited c.rulebook.programIds f.running

theorem room_leave_le (f : Frame) (c : Context) (a : Activity) :
    (f.leave a).room c ≤ f.room c + 1 := by
  cases a with
  | evaluate _ =>
    have h := unvisited_tail_le c.store.ids_nodup f.evaluating
    simp only [room, leave]
    omega
  | run _ _ =>
    have h := unvisited_tail_le c.rulebook.programIds_nodup f.running
    simp only [room, leave]
    omega

end Frame

namespace Context

def reply (c : Context) : (q : Request) → Reply q.Answer
  | .enter a => .enter a id
  | .value r =>
    match c.store.resolveSingle r with
    | .ok v => .enter (.evaluate v.id) id
    | .error e => .now (return .error e)
  | .entry r => .now (return c.rulebook.valueSets.lookup c.limits.valueSets r)
  | .roll r => .now ((r.total c.limits.dice).adapt RuleError.dice).run
  | .apply name args =>
    match c.rulebook.function? name with
    | some f => .now (return f.apply args)
    | none =>
      match c.rulebook.program? name with
      | some _ => .enter (.run name args) id
      | none => .now (return .error (.unknownFunction name))

/-- What an activity asks for once it starts. One that is under way already, lies too deep or is not
defined does not start. -/
def start (c : Context) (f : Frame) : Activity → Except RuleError (Inquiry Outcome)
  | .evaluate id =>
    if id ∈ f.evaluating then .error (.cyclicVariable id)
    else if c.limits.evaluations.toNat ≤ f.evaluating.length then
      .error (.tooDeep .variable c.limits.evaluations)
    else
      match c.store.get? id with
      | none => .error (.unknownVariable id)
      | some v => .ok (v.evaluate c.rulebook).run
  | .run id args =>
    match c.rulebook.program? id with
    | none => .error (.unknownProgram id)
    | some p =>
      if id ∈ f.running then .error (.cyclicInvocation id)
      else if c.limits.invocations.toNat ≤ f.running.length then
        .error (.tooDeep .invocation c.limits.invocations)
      else .ok (p.execute args).run

theorem start_evaluate {c : Context} {f : Frame} {id : VariableId} {x : Inquiry Outcome}
    (h : c.start f (.evaluate id) = .ok x) :
    id ∉ f.evaluating ∧ ∃ v, c.store.get? id = some v ∧ x = (v.evaluate c.rulebook).run := by
  simp only [start] at h
  split at h
  · cases h
  · rename_i hid
    split at h
    · cases h
    · split at h
      · cases h
      · rename_i v hv
        cases h
        exact ⟨hid, v, hv, rfl⟩

theorem start_run {c : Context} {f : Frame} {id : ProgramId} {args : List Value}
    {x : Inquiry Outcome} (h : c.start f (.run id args) = .ok x) :
    id ∉ f.running ∧ ∃ p, c.rulebook.program? id = some p ∧ x = (p.execute args).run := by
  simp only [start] at h
  split at h
  · cases h
  · rename_i p hp
    split at h
    · cases h
    · rename_i hid
      split at h
      · cases h
      · cases h
        exact ⟨hid, p, hp, rfl⟩

theorem room_enter_lt {c : Context} {f : Frame} {a : Activity} {x : Inquiry Outcome}
    (h : c.start f a = .ok x) : (f.enter a).room c < f.room c := by
  cases a with
  | evaluate id =>
    have ⟨hid, v, hv, _⟩ := start_evaluate h
    exact Nat.add_lt_add_right (unvisited_cons_lt (Store.mem_ids_of_get? hv) hid) _
  | run id args =>
    have ⟨hid, p, hp, _⟩ := start_run h
    exact Nat.add_lt_add_left (unvisited_cons_lt (Rulebook.mem_programIds_of_program? hp) hid) _

abbrev Within (c : Context) (bound : Frame) : Type := { f : Frame // f.room c ≤ bound.room c }

end Context

abbrev Frame.within (f : Frame) (c : Context) : c.Within f := ⟨f, Nat.le_refl _⟩

def Inquiry.follow {m : Type → Type} [Monad m] [MonadLiftT Dice.Plan m] (c : Context)
    (enter : Activity → m Outcome) : Inquiry α → m α
  | .done a => return a
  | .ask q next =>
    match c.reply q with
    | .now p => do (next (← p)).follow c enter
    | .enter a pass => do (next (pass (← enter a))).follow c enter

namespace Context

/-- Enters an activity, carries it out and leaves it again, however it ends. -/
def perform (c : Context) (bound : Frame) (a : Activity) :
    StateT (c.Within bound) Dice.Plan Outcome := fun f =>
  match hx : c.start f.val a with
  | .error e => return (.error e, f)
  | .ok x => do
    have hlt := Nat.lt_of_lt_of_le (room_enter_lt hx) f.property
    let inside := f.val.enter a
    let (outcome, g) ← x.follow c (perform c inside) (inside.within c)
    have hroom : (g.val.leave a).room c ≤ bound.room c :=
      Nat.le_trans (Frame.room_leave_le _ c a) (Nat.le_trans (Nat.succ_le_succ g.property) hlt)
    return (outcome, ⟨g.val.leave a, hroom⟩)
termination_by bound.room c
decreasing_by exact hlt

def carry (c : Context) (x : Inquiry α) : StateT Frame Dice.Plan α := fun f => do
  let (a, g) ← x.follow c (c.perform f) (f.within c)
  return (a, g.val)

def fresh (c : Context) (x : Inquiry α) : Dice.Plan α := (c.carry x).run' {}

end Context

end Tabletop
