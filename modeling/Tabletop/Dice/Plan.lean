/-!
Plans: computations that draw dice. A plan says which die it draws next and how it goes on after
each face, whoever rolls the dice.
-/

namespace Tabletop.Dice

inductive Plan (α : Type u) where
  | done (a : α)
  | draw (sides : Nat) (next : Nat → Plan α)

namespace Plan

def bind : Plan α → (α → Plan β) → Plan β
  | done a, f => f a
  | draw sides next, f => draw sides fun face => (next face).bind f

instance : Monad Plan where
  pure := done
  bind := bind

@[simp] theorem pure_eq (a : α) : (pure a : Plan α) = done a := rfl

@[simp] theorem done_bind (a : α) (f : α → Plan β) : (done a >>= f) = f a := rfl

@[simp] theorem draw_bind (sides : Nat) (next : Nat → Plan α) (f : α → Plan β) :
    (draw sides next >>= f) = draw sides fun face => next face >>= f := rfl

theorem bind_done (p : Plan α) : p >>= done = p := by
  induction p with
  | done a => rfl
  | draw sides next ih => exact congrArg (draw sides) (funext ih)

theorem bind_assoc (p : Plan α) (f : α → Plan β) (g : β → Plan γ) :
    p >>= f >>= g = p >>= fun a => f a >>= g := by
  induction p with
  | done a => rfl
  | draw sides next ih => exact congrArg (draw sides) (funext ih)

instance : LawfulMonad Plan :=
  LawfulMonad.mk' Plan bind_done (fun _ _ => rfl) bind_assoc

def draws (sides : Nat) : Nat → Plan (List Nat)
  | 0 => done []
  | n + 1 => draw sides fun face => do return face :: (← draws sides n)

def roll : Plan α → StdGen → α × StdGen
  | done a, g => (a, g)
  | draw sides next, g =>
    let (face, g) := randNat g 1 sides
    (next face).roll g

end Plan

end Tabletop.Dice
