import Tabletop.Proofs.Dependency.Graph
import Tabletop.Proofs.Evaluation.Unwinding
import Tabletop.Proofs.Results

/-! Where failures come from: an activity passes them on from what is met at once and from
activities that do not start. -/

namespace Tabletop

variable {α : Type} {e : RuleError}

namespace ValueSets

variable {sets : ValueSets} {limit : UInt64}

def Fails (sets : ValueSets) (limit : UInt64) (e : RuleError) : Prop :=
  e.Ordinary ∨ e = .tooDeep .valueSet limit ∧ limit.toNat < sets.ids.length

lemma fails_collect (opened : List ValueSetId) (found : List Entry) (id : ValueSetId)
    (hn : opened.Nodup) (ho : opened ⊆ sets.ids)
    (h : sets.collect limit opened found id = .error e) : sets.Fails limit e := by
  fun_induction collect sets limit opened found id with
  | case1 | case2 => cases h; exact .inl trivial
  | case3 => cases h
  | case4 opened found id hid s hs members hm hl =>
    cases h
    have hlen : (id :: opened).length ≤ sets.ids.length :=
      (List.nodup_cons.2 ⟨hid, hn⟩).length_le_of_subset
        (List.cons_subset.2 ⟨mem_ids_of_get? hs, ho⟩)
    exact .inr ⟨rfl, Nat.lt_of_le_of_lt hl hlen⟩
  | case5 opened found id hid s hs members hm hl ih =>
    obtain ⟨found, member, hmem, he⟩ := exists_of_foldlM_eq_error h
    exact ih found member (List.nodup_cons.2 ⟨hid, hn⟩)
      (List.cons_subset.2 ⟨mem_ids_of_get? hs, ho⟩) he

lemma fails_lookup {r : EntryRef} (h : sets.lookup limit r = .error e) : sets.Fails limit e := by
  rw [lookup, bind_eq_error] at h
  rcases h with h | ⟨entries, _, h⟩
  · exact fails_collect [] [] r.valueSet .nil (List.nil_subset _) h
  · split at h <;> cases h
    exact .inl trivial

end ValueSets

lemma Table.fault_of_apply {t : Table} {args : List Value} (h : t.apply args = .error e) :
    e.Ordinary ∨ maxParameters < args.length ∧ e = .tooManyParameters args.length maxParameters := by
  rw [apply, bind_eq_error] at h
  rcases h with h | ⟨_, _, h⟩
  · exact Signature.fault_of_checkArguments h
  · split at h <;> cases h
    exact .inl trivial

lemma Dice.Roll.ends_total {r : Roll} {limit : UInt64}
    (h : ((r.total limit).adapt RuleError.dice).run.Ends (.error e)) :
    ∃ fault, e = .dice fault ∧ ∀ q, fault = .invalid q → r.fault? = some fault := by
  change (Except.mapError RuleError.dice <$> (r.total limit).run).Ends _ at h
  obtain ⟨a, ha, he⟩ := Dice.Plan.ends_map.1 h
  cases a with
  | ok x => cases he
  | error fault =>
    cases he
    refine ⟨fault, rfl, ?_⟩
    rintro q rfl
    rw [total, ExceptT.run_map] at ha
    obtain ⟨b, hb, hab⟩ := Dice.Plan.ends_map.1 ha
    cases b <;> cases hab
    rw [throw] at hb
    split at hb
    · rename_i hfault
      cases hb
      exact hfault
    · split at hb
      · cases hb
      · simp [Except.map] at hb

namespace Store

variable {s : Store} {r : VariableRef}

lemma ordinary_of_get {id : VariableId} (h : s.get id = .error e) : e.Ordinary := by
  rw [get] at h
  split at h <;> cases h
  trivial

lemma ordinary_of_resolveSingle (h : s.resolveSingle r = .error e) : e.Ordinary := by
  cases r with
  | id i => exact ordinary_of_get h
  | tag t =>
    simp only [resolveSingle] at h
    split at h <;> cases h
    trivial

lemma ordinary_of_resolve (h : s.resolve r = .error e) : e.Ordinary := by
  cases r with
  | id i =>
    rw [resolve, bind_eq_error] at h
    rcases h with h | ⟨_, _, h⟩
    · exact ordinary_of_get h
    · cases h
  | tag t => cases h

end Store

namespace Context

variable {c : Context}

def FailsNow (c : Context) (q : Request) (e : RuleError) : Prop :=
  c.rulebook.valueSets.Fails c.limits.valueSets e ∨
    match q with
    | .roll r => ∃ fault, e = .dice fault ∧ ∀ quantity, fault = .invalid quantity →
        r.fault? = some fault
    | .apply _ args =>
      maxParameters < args.length ∧ e = .tooManyParameters args.length maxParameters
    | _ => False

lemma failsNow_of_now {q : Request} {p : Dice.Plan (Except RuleError q.Answer)}
    (h : c.reply q = .now p) (hp : p.Ends (.error e)) : c.FailsNow q e := by
  cases q with
  | enter a => cases h
  | value r =>
    simp only [reply] at h
    split at h <;> cases h
    rename_i hr
    cases hp
    exact .inl (.inl (Store.ordinary_of_resolveSingle hr))
  | entry r =>
    cases h
    exact .inl (ValueSets.fails_lookup (Dice.Plan.ends_done.1 hp).symm)
  | roll r =>
    cases h
    exact .inr (Dice.Roll.ends_total hp)
  | apply f args =>
    simp only [reply] at h
    split at h
    · cases h
      rcases Table.fault_of_apply (Dice.Plan.ends_done.1 hp).symm with he | he
      · exact .inl (.inl he)
      · exact .inr he
    · split at h <;> cases h
      cases hp
      exact .inl (.inl trivial)

def Fails (c : Context) (e : RuleError) : Prop :=
  e.Plain ∨ e = .tooDeep .valueSet c.limits.valueSets ∧
    c.limits.valueSets.toNat < c.rulebook.valueSets.ids.length

lemma FailsNow.fails {q : Request} (h : c.FailsNow q e) : c.Fails e := by
  rcases h with (h | h) | h
  · exact .inl h.plain
  · exact .inr h
  · cases q with
    | roll r =>
      obtain ⟨fault, rfl, _⟩ := h
      exact .inl trivial
    | apply f args =>
      obtain ⟨_, rfl⟩ := h
      exact .inl trivial
    | enter | value | entry => cases h

lemma refused_evaluate {f : Frame} {id : VariableId} (h : c.start f (.evaluate id) = .error e) :
    (e = .cyclicVariable id ∧ id ∈ f.evaluating) ∨
      (e = .tooDeep .variable c.limits.evaluations ∧
        c.limits.evaluations.toNat ≤ f.evaluating.length) ∨
      e = .unknownVariable id := by
  simp only [start] at h
  split at h
  · rename_i hid
    cases h
    exact .inl ⟨rfl, hid⟩
  · split at h
    · rename_i hl
      cases h
      exact .inr (.inl ⟨rfl, hl⟩)
    · split at h <;> cases h
      exact .inr (.inr rfl)

lemma refused_run {f : Frame} {id : ProgramId} {args : List Value}
    (h : c.start f (.run id args) = .error e) :
    e = .unknownProgram id ∨ (e = .cyclicInvocation id ∧ id ∈ f.running) ∨
      (e = .tooDeep .invocation c.limits.invocations ∧ id ∈ c.rulebook.programIds ∧
        id ∉ f.running ∧ c.limits.invocations.toNat ≤ f.running.length) := by
  simp only [start] at h
  split at h
  · cases h
    exact .inl rfl
  · rename_i hp
    split at h
    · rename_i hid
      cases h
      exact .inr (.inl ⟨rfl, hid⟩)
    · rename_i hid
      split at h <;> cases h
      exact .inr (.inr ⟨rfl, Rulebook.mem_programIds_of_program? hp, hid, ‹_›⟩)

lemma pass_error {q : Request} {b : Activity} {pass : Outcome → Except RuleError q.Answer}
    (h : c.reply q = .enter b pass) {r : Outcome} (hr : pass r = .error e) : r = .error e := by
  cases q with
  | enter a => cases h; exact hr
  | value v =>
    simp only [reply] at h
    split at h <;> cases h
    exact hr
  | entry r => cases h
  | roll r => cases h
  | apply f args =>
    simp only [reply] at h
    split at h
    · cases h
    · split at h <;> cases h
      exact hr

variable {fails : RuleError → Prop}
  (hnow : ∀ e, c.Fails e → fails e)

include hnow

lemma fails_follow {asks : Request → Prop} {out : Activity → Dice.Plan Outcome}
    (henter : ∀ q b pass, asks q → c.reply q = .enter b pass →
      ∀ e, (out b).Ends (.error e) → fails e)
    {x : Inquiry (Except RuleError α)} (hx : x.Confined asks fails)
    (h : (x.follow c out).Ends (.error e)) : fails e := by
  induction x with
  | done r => exact hx e (Dice.Plan.ends_done.1 h).symm
  | ask q next ih =>
    obtain ⟨hq, hnext⟩ := hx
    cases hr : c.reply q with
    | now p =>
      rw [Inquiry.follow_now hr, Dice.Plan.ends_bind] at h
      obtain ⟨r, hp, h⟩ := h
      refine ih r (hnext r ?_) h
      rintro e rfl
      exact hnow e (failsNow_of_now hr hp).fails
    | enter b pass =>
      rw [Inquiry.follow_enter hr, Dice.Plan.ends_bind] at h
      obtain ⟨r, hb, h⟩ := h
      refine ih (pass r) (hnext (pass r) fun e he => ?_) h
      exact henter q b pass hq hr e (pass_error hr he ▸ hb)

/-- What holds of an activity and the frame around it, and is handed down to whatever the activity
leads to, explains how the activity fails if it explains why one does not start. -/
lemma fails_outcome {motive : Frame → Activity → Prop}
    (refused : ∀ f a e, motive f a → c.start f a = .error e → fails e)
    (entered : ∀ f a x b, motive f a → c.start f a = .ok x → c.Leads a.vertex b.vertex →
      motive (f.enter a) b)
    {f : Frame} {a : Activity} (ha : motive f a) (h : (c.outcome f a).Ends (.error e)) :
    fails e := by
  induction f, a using activity_induction (c := c) generalizing e with
  | step f a ih =>
    cases hx : c.start f a with
    | error e' =>
      rw [outcome_refused hx, Dice.Plan.ends_done] at h
      cases h
      exact refused f a e ha hx
    | ok x =>
      rw [outcome_started hx] at h
      refine fails_follow hnow ?_ (start_confined hx fun e he => hnow e (.inl he)) h
      -- what the activity asks for is handed the motive inside the frame that it is entered in
      intro q b pass hq hr e he
      exact ih x hx b (entered f a x b ha hx (hq b pass hr)) he

end Context

end Tabletop
