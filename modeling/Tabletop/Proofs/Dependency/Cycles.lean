import Tabletop.Proofs.Dependency.Paths
import Tabletop.Proofs.Evaluation.Failures

namespace Tabletop

open Relation (ReflTransGen TransGen)

variable {c : Context} {f : Frame} {a b : Activity} {x : Inquiry Outcome}

def Frame.vertices (f : Frame) : List Vertex := f.evaluating.map .slot ++ f.running.map .program

lemma Frame.mem_vertices_enter {n : Vertex} :
    n ∈ (f.enter a).vertices ↔ n = a.vertex ∨ n ∈ f.vertices := by
  cases a with
  | evaluate id => simp [vertices, enter, Activity.vertex]
  | run id args => simp [vertices, enter, Activity.vertex, or_left_comm]

namespace Context

def Led (c : Context) (root : Vertex) (f : Frame) (a : Activity) : Prop :=
  ReflTransGen c.Leads root a.vertex ∧ ∀ n ∈ f.vertices, TransGen c.Leads n a.vertex

lemma led_root (a : Activity) : c.Led a.vertex {} a := ⟨.refl, fun n hn => by cases hn⟩

lemma Led.enter {root : Vertex} (h : c.Led root f a) (hb : c.Leads a.vertex b.vertex) :
    c.Led root (f.enter a) b := by
  refine ⟨h.1.tail hb, fun n hn => ?_⟩
  rcases Frame.mem_vertices_enter.1 hn with rfl | hn
  · exact .single hb
  · exact (h.2 n hn).tail hb

def Explains (c : Context) (id : VariableId) : RuleError → Prop
  | .cyclicVariable x => ReflTransGen c.Depends id x ∧ TransGen c.Depends x x
  | .cyclicInvocation p => TransGen c.rulebook.Calls p p ∨
      ∃ x, ReflTransGen c.Depends id x ∧ TransGen c.Depends x x
  | _ => True

lemma explains_of_fails {id : VariableId} {e : RuleError} (h : c.Fails e) : c.Explains id e := by
  rcases h with h | ⟨rfl, _⟩
  · cases e <;> trivial
  · trivial

lemma cycle_of_program {id : VariableId} {p : ProgramId}
    (hp : ReflTransGen c.Leads (.slot id) (.program p))
    (h : TransGen c.Leads (.program p) (.program p)) : c.Explains id (.cyclicInvocation p) := by
  rcases calls_or_slot h with ⟨q, hq, h⟩ | ⟨x, hx, hxp⟩
  · cases hq
    exact .inl h
  · refine .inr ⟨x, depends_of_reaches (hp.trans hx.to_reflTransGen), ?_⟩
    exact depends_of_leads (.trans_right hxp hx)

lemma explains_refused {id : VariableId} {e : RuleError} (h : c.Led (.slot id) f a)
    (he : c.start f a = .error e) : c.Explains id e := by
  cases a with
  | evaluate x =>
    rcases refused_evaluate he with ⟨rfl, hx⟩ | ⟨rfl, _⟩ | rfl
    · exact ⟨depends_of_reaches h.1, depends_of_leads (h.2 _ (by simp [Frame.vertices, hx]))⟩
    · trivial
    · trivial
  | run p args =>
    rcases refused_run he with rfl | ⟨rfl, hp⟩ | ⟨rfl, _⟩
    · trivial
    · exact cycle_of_program h.1 (h.2 _ (by simp [Frame.vertices, hp]))
    · trivial

lemma explains_evaluate {id : VariableId} {e : RuleError}
    (h : (c.fresh (Evaluation.enter (.evaluate id)).run).Ends (.error e)) : c.Explains id e := by
  rw [fresh_eq, result_enter] at h
  exact fails_outcome (fun e => explains_of_fails) (motive := c.Led (.slot id))
    (fun f a e ha he => explains_refused ha he) (fun f a x b ha hx hb => ha.enter hb)
    (led_root (.evaluate id)) h

end Context

/-- An evaluation that ends because it came back to a variable or a program it was inside of shows a
cycle of dependencies or of calls, whatever the dice; without such a cycle it does not end so. -/
theorem cyclic_evaluation_explained (c : Context) (id : VariableId) {δ : Type}
    (face : δ → ℕ → ℕ × δ) (d : δ) :
    let result := ((c.fresh (Evaluation.enter (.evaluate id)).run).play face d).1.1
    (∀ x, result = .error (.cyclicVariable x) →
      c.store.contains x = true ∧ ReflTransGen c.Depends id x ∧ TransGen c.Depends x x) ∧
    (∀ p, result = .error (.cyclicInvocation p) → TransGen c.rulebook.Calls p p ∨
      ∃ x, ReflTransGen c.Depends id x ∧ TransGen c.Depends x x) ∧
    ((∀ x, ReflTransGen c.Depends id x → ¬ TransGen c.Depends x x) →
      (∀ p, ¬ TransGen c.rulebook.Calls p p) →
      (∀ x, result ≠ .error (.cyclicVariable x)) ∧
      ∀ p, result ≠ .error (.cyclicInvocation p)) := by
  intro result
  have explains (e : RuleError) (h : result = .error e) : c.Explains id e :=
    Context.explains_evaluate (h ▸ Dice.Plan.ends_play face _ d)
  refine ⟨fun x h => ?_, fun p h => explains _ h, fun hd hc => ⟨fun x h => ?_, fun p h => ?_⟩⟩
  · obtain ⟨hr, ht⟩ := explains _ h
    obtain ⟨y, hy, _⟩ := TransGen.head'_iff.1 ht
    obtain ⟨v, hv, _⟩ := Context.depends_iff.1 hy
    exact ⟨by simp [Store.contains, hv], hr, ht⟩
  · obtain ⟨hr, ht⟩ := explains _ h
    exact hd x hr ht
  · rcases explains _ h with ht | ⟨x, hr, ht⟩
    · exact hc p ht
    · exact hd x hr ht

namespace Cycles

def one : VariableId := { name := "one" }

def two : VariableId := { name := "two" }

def again : Program where
  id := "again"
  label := "again"
  signature := ⟨[], .boolean⟩
  statements := [⟨"result", "again", []⟩]
  resultBinding := "result"

def looped : Context where
  rulebook := { programs := ⟨[again], by simp⟩ }
  store := ⟨⟨[⟨one, "", "", ∅, .number (.variable one), []⟩,
    ⟨two, "", "", ∅, .boolean (.program ⟨"again", []⟩), []⟩], by decide⟩⟩

def plain : Context where
  rulebook := {}
  store := ⟨⟨[⟨one, "", "", ∅, .number (.literal 1), []⟩], by simp⟩⟩

lemma result_one :
    looped.fresh (Evaluation.enter (.evaluate one)).run = .done (.error (.cyclicVariable one)) := by
  have hinner : looped.outcome { evaluating := [one] } (.evaluate one) =
      .done (.error (.cyclicVariable one)) := Context.outcome_refused rfl
  rw [Context.fresh_eq, Context.result_enter, Context.outcome_started rfl]
  refine (Inquiry.follow_enter rfl).trans ?_
  exact congrArg (· >>= _) hinner

lemma result_two : looped.fresh (Evaluation.enter (.evaluate two)).run =
    .done (.error (.cyclicInvocation "again")) := by
  have hinner : looped.outcome { evaluating := [two], running := ["again"] } (.run "again" []) =
      .done (.error (.cyclicInvocation "again")) := Context.outcome_refused rfl
  have houter : looped.outcome { evaluating := [two] } (.run "again" []) =
      .done (.error (.cyclicInvocation "again")) := by
    rw [Context.outcome_started rfl]
    refine (Inquiry.follow_enter rfl).trans ?_
    exact congrArg (· >>= _) hinner
  rw [Context.fresh_eq, Context.result_enter, Context.outcome_started rfl]
  refine (Inquiry.follow_enter rfl).trans ?_
  exact congrArg (· >>= _) houter

lemma not_depends_plain (x y : VariableId) : ¬ plain.Depends x y := by
  rw [Context.depends_iff]
  rintro ⟨v, hv, r, hr, _⟩
  cases List.mem_singleton.1 (List.mem_of_find?_eq_some hv)
  cases hr

end Cycles

open Cycles in
theorem cyclic_evaluation_explained_looped :
    let face : Unit → ℕ → ℕ × Unit := fun d _ => (1, d)
    let value c id := (((c : Context).fresh (Evaluation.enter (.evaluate id)).run).play face ()).1.1
    (value looped one = .error (.cyclicVariable one) ∧ looped.store.contains one = true ∧
      ReflTransGen looped.Depends one one ∧ TransGen looped.Depends one one) ∧
    (value looped two = .error (.cyclicInvocation "again") ∧
      (TransGen looped.rulebook.Calls "again" "again" ∨
        ∃ x, ReflTransGen looped.Depends two x ∧ TransGen looped.Depends x x)) ∧
    (∀ x, value plain one ≠ .error (.cyclicVariable x)) ∧
      ∀ p, value plain one ≠ .error (.cyclicInvocation p) := by
  intro face value
  have hone : value looped one = .error (.cyclicVariable one) := by
    simp only [value, result_one, Dice.Plan.play]
  have htwo : value looped two = .error (.cyclicInvocation "again") := by
    simp only [value, result_two, Dice.Plan.play]
  refine ⟨⟨hone, (cyclic_evaluation_explained looped one face ()).1 one hone⟩,
    ⟨htwo, (cyclic_evaluation_explained looped two face ()).2.1 "again" htwo⟩, ?_⟩
  refine (cyclic_evaluation_explained plain one face ()).2.2 (fun x _ hx => ?_) fun p hp => ?_
  · obtain ⟨y, hy, _⟩ := TransGen.head'_iff.1 hx
    exact not_depends_plain x y hy
  · obtain ⟨q, ⟨_, hq, _⟩, _⟩ := TransGen.head'_iff.1 hp
    cases hq

end Tabletop
