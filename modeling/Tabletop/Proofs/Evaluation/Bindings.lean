import Tabletop.Proofs.Evaluation.Contracts

/-! Programs that read no name before it is bound, and rulebooks of such programs: no evaluation
under them, however deep it goes, comes upon a name that is not bound yet. -/

namespace Tabletop

namespace Program

variable {i place : ℕ} {name : String} {bound : List String} {statements : List Statement}

/-- A statement reads a name that no statement before it binds. -/
def ReadsEarly (p : Program) : Prop :=
  ∃ before s after name, p.statements = before ++ s :: after ∧ .binding name ∈ s.parameters ∧
    ∀ t ∈ before, t.binding ≠ name

lemma mem_reads {s : Statement} : name ∈ s.reads ↔ .binding name ∈ s.parameters := by
  rw [Statement.reads, List.mem_filterMap]
  constructor
  · rintro ⟨p, hp, hname⟩
    cases p <;> cases hname
    exact hp
  · intro h
    exact ⟨_, h, rfl⟩

lemma mem_forwardFrom : (i, name) ∈ forwardFrom bound place statements ↔
    ∃ before s after, statements = before ++ s :: after ∧ i = place + before.length ∧
      .binding name ∈ s.parameters ∧ name ∉ bound ∧ ∀ t ∈ before, t.binding ≠ name := by
  induction statements generalizing bound place with
  | nil => simp [forwardFrom]
  | cons s rest ih =>
    simp only [forwardFrom, List.mem_append, List.mem_map, List.mem_filter, mem_reads, ih]
    constructor
    · rintro (⟨_, ⟨hread, hbound⟩, hi⟩ | ⟨before, t, after, rfl, rfl, hread, hbound, hbefore⟩)
      · cases hi
        exact ⟨[], s, rest, rfl, rfl, hread, by simpa using hbound, by simp⟩
      · simp only [List.mem_cons, not_or] at hbound
        refine ⟨s :: before, t, after, rfl, ?_, hread, hbound.2, ?_⟩
        · rw [List.length_cons]
          omega
        · exact List.forall_mem_cons.2 ⟨fun h => hbound.1 h.symm, hbefore⟩
    · rintro ⟨before, t, after, heq, rfl, hread, hbound, hbefore⟩
      cases before with
      | nil =>
        obtain ⟨rfl, rfl⟩ := List.cons.inj heq
        exact .inl ⟨name, ⟨hread, by simpa using hbound⟩, rfl⟩
      | cons u before =>
        obtain ⟨rfl, rfl⟩ := List.cons.inj heq
        obtain ⟨hu, hbefore⟩ := List.forall_mem_cons.1 hbefore
        refine .inr ⟨before, t, after, rfl, ?_, hread, ?_, hbefore⟩
        · rw [List.length_cons]
          omega
        · simp [hbound, hu.symm]

lemma forwardReferences_eq_nil {p : Program} : p.forwardReferences = [] ↔ ¬ p.ReadsEarly := by
  rw [List.eq_nil_iff_forall_not_mem]
  constructor
  · rintro h ⟨before, s, after, name, heq, hread, hbefore⟩
    exact h (before.length, name)
      (mem_forwardFrom.2 ⟨before, s, after, heq, (Nat.zero_add _).symm, hread, by simp, hbefore⟩)
  · rintro h ⟨i, name⟩ hmem
    obtain ⟨before, s, after, heq, _, hread, _, hbefore⟩ := mem_forwardFrom.1 hmem
    exact h ⟨before, s, after, name, heq, hread, hbefore⟩

end Program

def Contract.ordered : Contract where
  asks _ := True
  answers _ _ := True
  raises e := ∀ program place name, e ≠ .forwardReference program place name

lemma Contract.tolerant_ordered : ordered.Tolerant where
  raises e he := by
    rintro program place name rfl
    exact he
  entry _ := trivial
  nested e he := by
    rintro program place name rfl
    exact he trivial

namespace Context

variable {c : Context}

lemma honours_ordered (h : ∀ p ∈ c.rulebook.programs, ¬ p.ReadsEarly) : c.Honours .ordered := by
  have hk := Contract.tolerant_ordered
  constructor
  · rintro q p r _ hq hp
    refine ⟨fun _ _ => trivial, fun e he => ?_⟩
    exact hk.raises_now (failsNow_of_now hq (he ▸ hp)) (fun _ _ _ _ => nofun) fun _ _ _ _ => nofun
  · rintro q b pass _ hq
    exact ⟨trivial, fun r hr => ⟨fun _ _ => trivial, fun e he => hr.2 e (pass_error hq he)⟩⟩
  · exact fun f a e _ he => hk.raises_refused he
  · rintro f a x _ hx
    cases a with
    | evaluate id =>
      obtain ⟨_, v, _, rfl⟩ := start_evaluate hx
      exact v.strict hk.toLenient c.rulebook (fun _ _ => trivial) (fun _ _ => trivial)
        (fun _ _ _ => nofun) (fun _ _ _ _ => trivial) fun _ _ _ _ _ _ _ _ _ _ => trivial
    | run id args =>
      obtain ⟨_, p, hp, rfl⟩ := start_run hx
      have hnone := Program.forwardReferences_eq_nil.2 (h p (List.mem_of_find?_eq_some hp))
      refine p.strict hk.toLenient args (fun _ _ => trivial) (fun _ => nofun) (fun _ _ _ => nofun)
        (fun i name hi => ?_) fun _ _ _ _ => trivial
      rw [hnone] at hi
      cases hi

lemma ordered_evaluate (h : ∀ p ∈ c.rulebook.programs, ¬ p.ReadsEarly) {id : VariableId}
    {e : RuleError} (he : (c.fresh (Evaluation.enter (.evaluate id)).run).Ends (.error e)) :
    Contract.ordered.raises e := by
  rw [fresh_eq, result_enter] at he
  exact Contract.admits_error.1 ((honours_ordered h).outcome trivial he)

end Context

end Tabletop
