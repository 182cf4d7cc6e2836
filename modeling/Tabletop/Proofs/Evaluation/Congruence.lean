import Mathlib.Data.List.Forall2
import Tabletop.Proofs.Decimal.Equality
import Tabletop.Proofs.Evaluation.Unwinding

namespace Tabletop

open Evaluation

lemma Value.beq_iff {v w : Value} : (v == w) = true ↔
    (∃ x y, v = .number x ∧ w = .number y ∧ (x == y) = true) ∨ v = w ∧ v.type ≠ .number := by
  change same v w = true ↔ _
  cases v <;> cases w <;> simp [same, type]

instance : PartialEquivBEq Value where
  symm {v w} h := by
    rcases Value.beq_iff.1 h with ⟨x, y, rfl, rfl, h⟩ | ⟨rfl, _⟩
    · exact Value.beq_iff.2 (.inl ⟨y, x, rfl, rfl, Decimal.beq_symm h⟩)
    · exact h
  trans {u v w} h h' := by
    rcases Value.beq_iff.1 h with ⟨x, y, rfl, rfl, hxy⟩ | ⟨rfl, _⟩
    · rcases Value.beq_iff.1 h' with ⟨_, z, hy, rfl, hyz⟩ | ⟨_, hnumber⟩
      · cases hy
        exact Value.beq_iff.2 (.inl ⟨x, z, rfl, rfl, Decimal.beq_trans hxy hyz⟩)
      · exact absurd rfl hnumber
    · exact h'

def Value.Like (v w : Value) : Prop := v = w ∨ (v == w) = true

abbrev Value.AllLike : List Value → List Value → Prop := List.Forall₂ Value.Like

namespace Value

variable {u v w : Value} {vs ws : List Value}

lemma type_of_like (h : v.Like w) : v.type = w.type := by
  rcases h with rfl | h
  · rfl
  · rcases beq_iff.1 h with ⟨x, y, rfl, rfl, _⟩ | ⟨rfl, _⟩ <;> rfl

lemma beq_of_like (h : v.Like w) : (u == v) = (u == w) := by
  rcases h with rfl | h
  · rfl
  · exact BEq.congr_right h

lemma AllLike.getElem? (h : AllLike vs ws) (k : ℕ) : Option.Rel Like vs[k]? ws[k]? := by
  induction h generalizing k with
  | nil => exact .none
  | cons hv _ ih =>
    cases k with
    | zero => exact .some hv
    | succ k => exact ih k

lemma allLike_of_beq (h : (vs == ws) = true) : AllLike vs ws := by
  induction vs generalizing ws with
  | nil =>
    cases ws with
    | nil => exact .nil
    | cons w ws => cases h
  | cons v vs ih =>
    cases ws with
    | nil => cases h
    | cons w ws =>
      rw [List.cons_beq_cons, Bool.and_eq_true] at h
      exact .cons (.inr h.1) (ih h.2)

lemma beq_of_allLike (us : List Value) (h : AllLike vs ws) : (us == vs) = (us == ws) := by
  induction h generalizing us with
  | nil => rfl
  | cons hvw _ ih =>
    cases us with
    | nil => rfl
    | cons u us => rw [List.cons_beq_cons, List.cons_beq_cons, beq_of_like hvw, ih]

end Value

open Value (AllLike)

section Same

variable {args args' : List Value}

lemma Signature.firstMismatch?_like (position : ℕ) (ts : List ValueType)
    (h : AllLike args args') : firstMismatch? position ts args = firstMismatch? position ts args' := by
  induction h generalizing position ts with
  | nil => rfl
  | cons hv _ ih =>
    cases ts with
    | nil => rfl
    | cons t ts => rw [firstMismatch?, firstMismatch?, Value.type_of_like hv, ih]

lemma Signature.checkArguments_like (s : Signature) (target : String) (h : AllLike args args') :
    s.checkArguments target args = s.checkArguments target args' := by
  rw [checkArguments, checkArguments, h.length_eq, firstMismatch?_like 1 s.parameters h]

lemma Table.apply_like (t : Table) (h : AllLike args args') : t.apply args = t.apply args' := by
  have hrow : (fun r : Row => r.parameters == args) = fun r : Row => r.parameters == args' :=
    funext fun r => Value.beq_of_allLike r.parameters h
  rw [apply, apply, Signature.checkArguments_like _ _ h, hrow]

end Same

namespace Inquiry

variable {α : Type}

/-- The inquiries ask for the same, except that arguments may be alike only, and come to results in
the relation. -/
inductive Alike (R : α → α → Prop) :
    Inquiry (Except RuleError α) → Inquiry (Except RuleError α) → Prop
  | ok {a b : α} : R a b → Alike R (.done (.ok a)) (.done (.ok b))
  | error (e : RuleError) : Alike R (.done (.error e)) (.done (.error e))
  | ask (q : Request) {next next' : Except RuleError q.Answer → Inquiry (Except RuleError α)} :
      (∀ r, Alike R (next r) (next' r)) → Alike R (.ask q next) (.ask q next')
  | apply (id : FunctionId) {vs ws : List Value}
      {next next' : Except RuleError Value → Inquiry (Except RuleError α)} : AllLike vs ws →
      (∀ r, Alike R (next r) (next' r)) →
      Alike R (.ask (.apply id vs) next) (.ask (.apply id ws) next')

lemma Alike.refl {R : α → α → Prop} (hR : ∀ a, R a a) (x : Inquiry (Except RuleError α)) :
    Alike R x x := by
  induction x with
  | done r =>
    cases r with
    | error e => exact .error e
    | ok a => exact .ok (hR a)
  | ask q next ih => exact .ask q ih

lemma Alike.follow_eq {c : Context} {out : Activity → Dice.Plan Outcome}
    (hout : ∀ id vs ws, AllLike vs ws → out (.run id vs) = out (.run id ws))
    {x y : Inquiry (Except RuleError α)} (h : Alike Eq x y) : x.follow c out = y.follow c out := by
  induction h with
  | ok h => rw [h]
  | error => rfl
  | ask q _ ih =>
    cases hq : c.reply q with
    | now p => simp only [follow_now hq, ih]
    | enter b pass => simp only [follow_enter hq, ih]
  | @apply name vs ws next next' hvs _ ih =>
    cases hf : c.rulebook.function? name with
    | some t =>
      have hreply (us : List Value) : c.reply (.apply name us) = .now (return t.apply us) := by
        simp only [Context.reply, hf]
      rw [follow_now (hreply vs), follow_now (hreply ws), t.apply_like hvs]
      simp only [ih]
    | none =>
      cases hp : c.rulebook.program? name with
      | none =>
        have hreply (us : List Value) :
            c.reply (.apply name us) = .now (return .error (.unknownFunction name)) := by
          simp only [Context.reply, hf, hp]
        rw [follow_now (hreply vs), follow_now (hreply ws)]
        simp only [ih]
      | some p =>
        have hreply (us : List Value) : c.reply (.apply name us) = .enter (.run name us) id := by
          simp only [Context.reply, hf, hp]
        rw [follow_enter (hreply vs), follow_enter (hreply ws), hout name vs ws hvs]
        simp only [ih]

end Inquiry

namespace Evaluation

variable {α β : Type} {R : α → α → Prop} {S : β → β → Prop}

def Alike (R : α → α → Prop) (x y : Evaluation α) : Prop := Inquiry.Alike R x.run y.run

lemma alike_refl (hR : ∀ a, R a a) (x : Evaluation α) : Alike R x x := Inquiry.Alike.refl hR x.run

lemma alike_pure {a b : α} (h : R a b) : Alike R (pure a) (pure b) := .ok h

lemma alike_throw (e : RuleError) : Alike R (throw e) (throw e) := .error e

lemma alike_apply (name : FunctionId) {vs ws : List Value} (h : AllLike vs ws) :
    Alike Eq (apply name vs) (apply name ws) :=
  .apply name h fun r => .refl (fun _ => rfl) (.done r)

lemma Alike.bind {x y : Evaluation α} {g g' : α → Evaluation β} (hx : Alike R x y)
    (hg : ∀ a b, R a b → Alike S (g a) (g' b)) : Alike S (x >>= g) (y >>= g') := by
  change Inquiry.Alike S (Inquiry.bind x.run (ExceptT.bindCont g))
    (Inquiry.bind y.run (ExceptT.bindCont g'))
  unfold Alike at hx
  generalize x.run = x, y.run = y at hx
  induction hx with
  | ok h => exact hg _ _ h
  | error e => exact .error e
  | ask q _ ih => exact .ask q ih
  | apply name hvs _ ih => exact .apply name hvs ih

lemma alike_mapM {g g' : α → Evaluation β} (h : ∀ a, Alike S (g a) (g' a)) (as : List α) :
    Alike (List.Forall₂ S) (as.mapM g) (as.mapM g') := by
  induction as with
  | nil => exact alike_pure .nil
  | cons a as ih =>
    rw [List.mapM_cons, List.mapM_cons]
    exact (h a).bind fun b b' hb => ih.bind fun bs bs' hbs => alike_pure (.cons hb hbs)

end Evaluation

section Execute

variable {args args' : List Value} (h : AllLike args args')

include h

lemma Parameter.resolve_like (program : ProgramId) (place : ℕ) (bindings : List (String × Value))
    (p : Parameter) : Alike Value.Like (p.resolve program place args bindings)
      (p.resolve program place args' bindings) := by
  cases p with
  | binding name => exact alike_refl (fun _ => .inl rfl) _
  | reference r => exact alike_refl (fun _ => .inl rfl) _
  | argument i =>
    rw [resolve, resolve]
    split
    · exact alike_throw _
    · rename_i k _
      have hk := h.getElem? k
      generalize args[k]? = v, args'[k]? = w at hk
      cases hk with
      | none => exact alike_throw _
      | some hvw => exact alike_pure hvw

lemma Statement.evaluate_like (program : ProgramId) (place : ℕ) (bindings : List (String × Value))
    (s : Statement) : Alike Eq (s.evaluate program place args bindings)
      (s.evaluate program place args' bindings) := by
  have happly := (alike_mapM (Parameter.resolve_like h program place bindings) s.parameters).bind
    fun _ _ => alike_apply s.function
  rw [evaluate, evaluate]
  split
  · exact (alike_throw (R := Eq) _).bind fun _ _ _ => happly
  · exact happly

lemma Program.runFrom_like (program : ProgramId) (place : ℕ) (bindings : List (String × Value))
    (statements : List Statement) : Alike Eq (runFrom program args place bindings statements)
      (runFrom program args' place bindings statements) := by
  induction statements generalizing place bindings with
  | nil => exact alike_pure rfl
  | cons s rest ih =>
    rw [runFrom, runFrom]
    refine (s.evaluate_like h program place bindings).bind fun v w hvw => ?_
    rw [hvw]
    exact ih _ _

lemma Program.execute_like (p : Program) : Alike Eq (p.execute args) (p.execute args') := by
  rw [execute, execute, Signature.checkArguments_like _ _ h]
  refine (alike_refl (R := Eq) (fun _ => rfl) _).bind fun _ _ _ => ?_
  refine (runFrom_like h p.id 0 [] p.statements).bind fun bindings bindings' hbindings => ?_
  rw [hbindings]
  exact alike_refl (fun _ => rfl) _

end Execute

namespace Context

variable {c : Context}

lemma start_like (f : Frame) (id : ProgramId) (args args' : List Value) :
    (∃ e, c.start f (.run id args) = .error e ∧ c.start f (.run id args') = .error e) ∨
      ∃ p : Program, c.start f (.run id args) = .ok (p.execute args).run ∧
        c.start f (.run id args') = .ok (p.execute args').run := by
  simp only [start]
  split
  · exact .inl ⟨_, rfl, rfl⟩
  · split
    · exact .inl ⟨_, rfl, rfl⟩
    · split
      · exact .inl ⟨_, rfl, rfl⟩
      · exact .inr ⟨_, rfl, rfl⟩

lemma outcome_like (f : Frame) (id : ProgramId) {args args' : List Value} (h : AllLike args args') :
    c.outcome f (.run id args) = c.outcome f (.run id args') := by
  -- what is entered has arguments of its own, so the induction speaks of all that are alike
  suffices hall : ∀ f a id args args', a = Activity.run id args → AllLike args args' →
      c.outcome f (.run id args) = c.outcome f (.run id args') from hall f _ id args args' rfl h
  intro f a
  induction f, a using activity_induction (c := c) with
  | step f a ih =>
    rintro id args args' rfl h
    rcases start_like f id args args' with ⟨e, he, he'⟩ | ⟨p, hp, hp'⟩
    · rw [outcome_refused he, outcome_refused he']
    · rw [outcome_started hp, outcome_started hp']
      exact (p.execute_like h).follow_eq fun id vs ws hvs => ih _ hp (.run id vs) id vs ws rfl hvs

end Context

end Tabletop
