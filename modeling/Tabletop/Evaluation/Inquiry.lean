import Tabletop.Rule.ValueSet

/-!
Inquiries: what rules ask for while they are evaluated. A rule reaches neither the sheet nor the
rulebook itself: it asks, and goes on with whatever it is told.
-/

namespace Tabletop

inductive Activity where
  | evaluate (id : VariableId)
  | run (id : ProgramId) (args : List Value)
  deriving DecidableEq

abbrev Outcome := Except RuleError Value

inductive Request where
  | enter (a : Activity)
  | value (r : VariableRef)
  | entry (r : EntryRef)
  | roll (r : Dice.Roll)
  /-- Applies the function of a name, or runs the program of that name if there is no function. -/
  | apply (id : FunctionId) (args : List Value)

abbrev Request.Answer : Request → Type
  | entry _ => Entry
  | roll _ => Float
  | _ => Value

inductive Inquiry (α : Type) where
  | done (a : α)
  | ask (q : Request) (next : Except RuleError q.Answer → Inquiry α)

namespace Inquiry

variable {α β γ : Type}

def bind : Inquiry α → (α → Inquiry β) → Inquiry β
  | done a, f => f a
  | ask q next, f => ask q fun answer => (next answer).bind f

instance : Monad Inquiry where
  pure := done
  bind := bind

@[simp] theorem pure_eq (a : α) : (pure a : Inquiry α) = done a := rfl

@[simp] theorem done_bind (a : α) (f : α → Inquiry β) : (done a >>= f) = f a := rfl

@[simp] theorem ask_bind (q : Request) (next : Except RuleError q.Answer → Inquiry α)
    (f : α → Inquiry β) : (ask q next >>= f) = ask q fun answer => next answer >>= f := rfl

theorem bind_done (x : Inquiry α) : x >>= done = x := by
  induction x with
  | done a => rfl
  | ask q next ih => exact congrArg (ask q) (funext ih)

theorem bind_assoc (x : Inquiry α) (f : α → Inquiry β) (g : β → Inquiry γ) :
    x >>= f >>= g = x >>= fun a => f a >>= g := by
  induction x with
  | done a => rfl
  | ask q next ih => exact congrArg (ask q) (funext ih)

instance : LawfulMonad Inquiry :=
  LawfulMonad.mk' Inquiry bind_done (fun _ _ => rfl) bind_assoc

end Inquiry

abbrev Evaluation := ExceptT RuleError Inquiry

namespace Evaluation

def ask (q : Request) : Evaluation q.Answer := ExceptT.mk (.ask q .done)

def enter (a : Activity) : Evaluation Value := ask (.enter a)

def value (r : VariableRef) : Evaluation Value := ask (.value r)

def entry (r : EntryRef) : Evaluation Entry := ask (.entry r)

def roll (r : Dice.Roll) : Evaluation Float := ask (.roll r)

def apply (id : FunctionId) (args : List Value) : Evaluation Value := ask (.apply id args)

def typed (r : Except Mismatch α) : Evaluation α := liftM (r.mapError RuleError.mismatch)

end Evaluation

end Tabletop
