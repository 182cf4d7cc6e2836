import Tabletop.Proofs.Evaluation.Contracts

/-! The names that a program reads early, found without running it, against the failures of its
runs: the first of them is what a run complains of, if it gets that far. -/

namespace Tabletop

variable {α : Type} {k : Contract} {good : α → Prop} {c : Context} {p : Program}

/-- The inquiry comes to this end when the failures that it is told of are those of the list. -/
inductive Inquiry.Told : List RuleError → Inquiry α → α → Prop
  | done (a : α) : Told [] (.done a) a
  | answered {q : Request} {next : Except RuleError q.Answer → Inquiry α} {told : List RuleError}
      {r : α} (a : q.Answer) : Told told (next (.ok a)) r → Told told (.ask q next) r
  | failed {q : Request} {next : Except RuleError q.Answer → Inquiry α} {told : List RuleError}
      {r : α} (e : RuleError) : Told told (next (.error e)) r → Told (e :: told) (.ask q next) r

lemma Inquiry.Strict.told {x : Inquiry (Except RuleError α)} (hx : x.Strict k good)
    (hanswers : ∀ q a, k.answers q a) {told : List RuleError} {r : Except RuleError α}
    (h : x.Told told r) : (∃ e ∈ told, r = .error e) ∨ k.Admits good r := by
  induction h with
  | done r => exact .inr hx
  | @answered q next told r a h ih => exact ih (hx.2.2 a (hanswers q a))
  | @failed q next told r e h ih =>
    rw [hx.2.1 e] at h
    cases h
    exact .inl ⟨e, List.mem_cons_self .., rfl⟩

def Contract.early (p : Program) (others : ProgramId → ℕ → String → Prop) : Contract where
  asks _ := True
  answers _ _ := True
  raises e := ∀ id i name, e = .forwardReference id i name →
    (id = p.id ∧ p.forwardReferences.head? = some (i, name)) ∨ others id i name

section Early

variable {others : ProgramId → ℕ → String → Prop}

lemma Contract.tolerant_early : (early p others).Tolerant where
  raises e he := by
    rintro id i name rfl
    exact he.elim
  entry _ := trivial
  nested e he := by
    rintro id i name rfl
    exact absurd trivial he

lemma Program.strict_early (others : ProgramId → ℕ → String → Prop) (q : Program)
    (args : List Value)
    (h : ∀ i name, q.forwardReferences.head? = some (i, name) →
      (q.id = p.id ∧ p.forwardReferences.head? = some (i, name)) ∨ others q.id i name) :
    Evaluation.Strict (.early p others) (fun _ => q.forwardReferences = []) (q.execute args) := by
  refine q.strict_first Contract.tolerant_early.toLenient args (fun _ _ => trivial) (fun _ => nofun)
    (fun _ _ _ => nofun) ?_ fun _ _ _ _ => trivial
  rintro i name hfirst _ _ _ ⟨⟩
  exact h i name hfirst

end Early

/-- A program of the rulebook that has this name reads that one early, and none before it. -/
def Rulebook.ReadsFirst (b : Rulebook) (id : ProgramId) (i : ℕ) (name : String) : Prop :=
  ∃ q, b.program? id = some q ∧ q.forwardReferences.head? = some (i, name)

lemma Context.honours_early : c.Honours (.early p c.rulebook.ReadsFirst) := by
  have hk : (Contract.early p c.rulebook.ReadsFirst).Tolerant := Contract.tolerant_early
  constructor
  · rintro q s r _ hq hs
    refine ⟨fun _ _ => trivial, fun e he => ?_⟩
    exact hk.raises_now (failsNow_of_now hq (he ▸ hs)) (fun _ _ _ _ => nofun) fun _ _ _ _ => nofun
  · rintro q b pass _ hq
    exact ⟨trivial, fun r hr => ⟨fun _ _ => trivial, fun e he => hr.2 e (pass_error hq he)⟩⟩
  · exact fun f a e _ he => hk.raises_refused he
  · rintro f a x _ hx
    cases a with
    | evaluate id =>
      obtain ⟨_, v, _, rfl⟩ := start_evaluate hx
      exact v.strict hk.toLenient c.rulebook (fun _ _ => trivial) (fun _ _ => trivial)
        (fun _ _ _ => nofun) (fun _ _ _ _ => trivial) fun _ _ _ _ _ _ _ _ _ _ => trivial
    | run id args =>
      obtain ⟨_, q, hq, rfl⟩ := start_run hx
      have hid : q.id = id := by simpa using List.find?_some hq
      refine (Program.strict_early _ q args fun i name hfirst => ?_).mono fun _ _ => trivial
      exact .inr ⟨q, hid ▸ hq, hfirst⟩

namespace Program

/-- What is found without running the program agrees with the outcome of a run, unless the outcome
is a complaint that is passed on from elsewhere. -/
def Agrees (p : Program) (elsewhere : ℕ → String → Prop) (r : Outcome) : Prop :=
  (p.forwardReferences = [] → ∀ i name, r = .error (.forwardReference p.id i name) →
    elsewhere i name) ∧
  ∀ i name rest, p.forwardReferences = (i, name) :: rest → (∀ v, r ≠ .ok v) ∧
    ∀ j other, r = .error (.forwardReference p.id j other) →
      (j, other) = (i, name) ∨ elsewhere j other

lemma agrees_of_first {elsewhere : ℕ → String → Prop} {r : Outcome}
    (hok : ∀ v, r = .ok v → p.forwardReferences = [])
    (herror : ∀ i name, r = .error (.forwardReference p.id i name) →
      p.forwardReferences.head? = some (i, name) ∨ elsewhere i name) : p.Agrees elsewhere r := by
  constructor
  · intro hnone i name hr
    refine (herror i name hr).resolve_left ?_
    rw [hnone]
    exact nofun
  · intro i name rest hfirst
    constructor
    · intro v hv
      cases (hok v hv).symm.trans hfirst
    · intro j other hr
      refine (herror j other hr).imp_left fun h => ?_
      rw [hfirst] at h
      exact (Option.some.inj h).symm

end Program

/-- Static and dynamic forward references agree, whatever a program is told while it runs. In an
evaluator it may be told of such a failure only by another program of its name. -/
theorem forward_references_agree (p : Program) (args : List Value) :
    (∀ told r, (p.execute args).run.Told told r →
      p.Agrees (fun i name => .forwardReference p.id i name ∈ told) r) ∧
    ∀ (c : Context) (f : Frame) {δ : Type} (face : δ → ℕ → ℕ × δ) (d : δ),
      p.Agrees (fun i name => ∃ q ≠ p, c.rulebook.program? p.id = some q ∧
          q.forwardReferences.head? = some (i, name))
        ((c.carry (p.execute args).run f).play face d).1.1.1 := by
  constructor
  · intro told r h
    have hstrict := Program.strict_early (fun _ _ _ => False) p args
      fun i name hfirst => .inl ⟨rfl, hfirst⟩
    rcases hstrict.told (fun _ _ => trivial) h with ⟨e, he, rfl⟩ | hr
    · refine Program.agrees_of_first nofun fun i name hr => .inr ?_
      exact Except.error.inj hr ▸ he
    · refine Program.agrees_of_first hr.1 fun i name hr' => .inl ?_
      rcases hr.2 _ hr' p.id i name rfl with ⟨_, h⟩ | h
      · exact h
      · exact h.elim
  · intro c f δ face d
    rw [Context.carry_restores, Dice.Plan.play_map]
    have hstrict := Program.strict_early c.rulebook.ReadsFirst p args
      fun i name hfirst => .inl ⟨rfl, hfirst⟩
    have hr := Context.honours_early.result hstrict
      ((c.result f (p.execute args).run).ends_play face d)
    refine Program.agrees_of_first hr.1 fun i name hr' => ?_
    rcases hr.2 _ hr' p.id i name rfl with ⟨_, h⟩ | ⟨q, hq, h⟩
    · exact .inl h
    · by_cases hqp : q = p
      · subst hqp
        exact .inl h
      · exact .inr ⟨q, hqp, hq, h⟩

namespace ForwardReferences

def early : Program where
  id := "early"
  label := "Early"
  signature := ⟨[.text], .text⟩
  statements := [⟨"first", "same", [.argument 1]⟩,
    ⟨"second", "same", [.binding "first", .binding "third", .binding "second"]⟩,
    ⟨"third", "same", [.binding "second"]⟩]
  resultBinding := "third"

def same : Table where
  id := "same"
  label := "Same"
  signature := ⟨[.text], .text⟩
  rows := [⟨[.text "word"], .text "word"⟩]

def context : Context where
  rulebook := { functions := ⟨[same], by simp⟩, programs := ⟨[early], by simp⟩ }
  store := {}

def run (args : List Value) : Outcome :=
  ((context.carry (early.execute args).run {}).play (fun (_ : Unit) _ => (1, ())) ()).1.1.1

lemma run_word : run [.text "word"] = .error (.forwardReference "early" 1 "third") := by
  rfl

end ForwardReferences

open ForwardReferences in
theorem forward_references_agree_early :
    early.forwardReferences = [(1, "third"), (1, "second")] ∧
      run [.text "word"] = .error (.forwardReference "early" 1 "third") ∧
      ∀ args, (∀ v, run args ≠ .ok v) ∧ ∀ i name,
        run args = .error (.forwardReference "early" i name) → (i, name) = (1, "third") := by
  have hfirst : early.forwardReferences = [(1, "third"), (1, "second")] := by decide
  refine ⟨hfirst, run_word, fun args => ?_⟩
  have hagrees := (forward_references_agree early args).2 context {}
    (fun (_ : Unit) _ => (1, ())) ()
  obtain ⟨hok, herror⟩ := hagrees.2 1 "third" [(1, "second")] hfirst
  refine ⟨hok, fun i name h => (herror i name h).resolve_right ?_⟩
  rintro ⟨q, hq, hsome, _⟩
  exact hq (Option.some.inj hsome).symm

end Tabletop
