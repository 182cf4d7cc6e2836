import Tabletop.Proofs.Evaluation.Depth
import Tabletop.Proofs.Evaluation.Simulation

/-! Limits cut an evaluation off, and they do nothing else: what is not cut off goes the same way
under any larger limits. -/

namespace Tabletop

variable {α β : Type}

def RuleError.LimitReached : RuleError → Prop
  | tooDeep .. | dice (.tooMany ..) => True
  | _ => False

def CutOff (r : Except RuleError α) : Prop := ∃ e, r = .error e ∧ e.LimitReached

structure Limits.Within (l m : Limits) : Prop where
  invocations : l.invocations ≤ m.invocations
  evaluations : l.evaluations ≤ m.evaluations
  valueSets : l.valueSets ≤ m.valueSets
  dice : l.dice ≤ m.dice

lemma cutOff_bind {r : Except RuleError α} {g : α → Except RuleError β} (h : CutOff r) :
    CutOff (r >>= g) := by
  obtain ⟨e, rfl, he⟩ := h
  exact ⟨e, rfl, he⟩

lemma foldlM_cutOff_or_eq {g g' : β → α → Except RuleError β} {xs : List α}
    (h : ∀ b, ∀ x ∈ xs, CutOff (g b x) ∨ g' b x = g b x) (b : β) :
    CutOff (xs.foldlM g b) ∨ xs.foldlM g' b = xs.foldlM g b := by
  induction xs generalizing b with
  | nil => exact .inr rfl
  | cons x xs ih =>
    rw [List.foldlM_cons, List.foldlM_cons]
    rcases h b x (by simp) with hx | hx
    · exact .inl (cutOff_bind hx)
    · rw [hx]
      cases g b x with
      | error e => exact .inr rfl
      | ok b' => exact ih (fun b y hy => h b y (by simp [hy])) b'

namespace ValueSets

variable {sets : ValueSets} {l m : UInt64}

lemma collect_cutOff_or_eq (sets : ValueSets) (h : l ≤ m) (opened : List ValueSetId)
    (found : List Entry) (id : ValueSetId) :
    CutOff (sets.collect l opened found id) ∨
      sets.collect m opened found id = sets.collect l opened found id := by
  have hle : l.toNat ≤ m.toNat := UInt64.le_iff_toNat_le.1 h
  fun_induction collect sets l opened found id with
  | case1 opened found id hid =>
    exact .inr (by rw [collect, dif_pos hid])
  | case2 opened found id hid hs =>
    refine .inr ?_
    rw [collect, dif_neg hid]
    split <;> simp_all
  | case3 opened found id hid s hs entries hm =>
    refine .inr ?_
    rw [collect, dif_neg hid]
    split <;> simp_all
  | case4 opened found id hid s hs members hm hl => exact .inl ⟨_, rfl, trivial⟩
  | case5 opened found id hid s hs members hm hl ih =>
    have hm' : ¬ m.toNat ≤ opened.length := by omega
    have hcollect : sets.collect m opened found id =
        members.foldlM (sets.collect m (id :: opened)) found := by
      rw [collect, dif_neg hid]
      split
      · simp_all
      · obtain rfl : _ = s := Option.some.inj (hs.symm.trans ‹_›).symm
        simp only [hm, if_neg hm']
    rw [hcollect]
    exact foldlM_cutOff_or_eq (fun found id _ => ih found id) found

lemma lookup_cutOff_or_eq (h : l ≤ m) (r : EntryRef) :
    CutOff (sets.lookup l r) ∨ sets.lookup m r = sets.lookup l r := by
  rcases collect_cutOff_or_eq sets h [] [] r.valueSet with hl | hl
  · exact .inl (cutOff_bind hl)
  · exact .inr (by rw [lookup, lookup, entries, entries, hl])

end ValueSets

namespace Dice.Roll

lemma toInt_le {l m : UInt64} (h : l ≤ m) (hm : (m.toNat : Int) ≤ Int64.maxValue.toInt) :
    l.toInt64.toInt ≤ m.toInt64.toInt := by
  have hle : l.toNat ≤ m.toNat := UInt64.le_iff_toNat_le.1 h
  have hsigned {n : UInt64} (hn : n.toNat ≤ m.toNat) : n.toInt64.toInt = n.toNat := by
    refine BitVec.toInt_eq_toNat_of_lt ?_
    change 2 * n.toNat < _
    have : Int64.maxValue.toInt = 2 ^ 63 - 1 := rfl
    omega
  rw [hsigned hle, hsigned (Nat.le_refl _)]
  exact_mod_cast hle

lemma total_brokenOff {l m : UInt64} (h : l ≤ m) (hm : (m.toNat : Int) ≤ Int64.maxValue.toInt)
    (r : Roll) :
    ((r.total l).adapt RuleError.dice).run.BrokenOff CutOff
      ((r.total m).adapt RuleError.dice).run := by
  have hle := toInt_le h hm
  unfold total throw
  cases r.fault? with
  | some f => exact .refl _
  | none =>
    simp only
    by_cases hl : l.toInt64.toInt < r.diceCount
    · rw [if_pos hl]
      exact .cut ⟨_, rfl, trivial⟩
    · rw [if_neg hl, if_neg (by omega)]
      exact .refl _

end Dice.Roll

namespace Context

variable {c : Context} {l : Limits} {f : Frame}

abbrev under (c : Context) (l : Limits) : Context := { c with limits := l }

lemma reply_under (hl : c.limits.Within l) (hdice : (l.dice.toNat : Int) ≤ Int64.maxValue.toInt)
    (q : Request) : (c.reply q).BrokenOff RuleError.LimitReached ((c.under l).reply q) := by
  cases q with
  | enter | value | apply => exact .refl _
  | entry r =>
    refine .now ?_
    rcases ValueSets.lookup_cutOff_or_eq hl.valueSets r with h | h
    · exact .cut h
    · rw [h]
      exact .refl _
  | roll r => exact .now (r.total_brokenOff hl.dice hdice)

lemma start_under (hl : c.limits.Within l) (f : Frame) (a : Activity) :
    CutOff (c.start f a) ∨ (c.under l).start f a = c.start f a := by
  have hevaluations := UInt64.le_iff_toNat_le.1 hl.evaluations
  have hinvocations := UInt64.le_iff_toNat_le.1 hl.invocations
  cases a with
  | evaluate id =>
    simp only [start]
    by_cases hid : id ∈ f.evaluating
    · exact .inr (by rw [if_pos hid, if_pos hid])
    · rw [if_neg hid, if_neg hid]
      by_cases hc : c.limits.evaluations.toNat ≤ f.evaluating.length
      · rw [if_pos hc]
        exact .inl ⟨_, rfl, trivial⟩
      · rw [if_neg hc, if_neg (by omega)]
        exact .inr rfl
  | run id args =>
    simp only [start]
    cases c.rulebook.program? id with
    | none => exact .inr rfl
    | some p =>
      by_cases hid : id ∈ f.running
      · exact .inr (by simp only [if_pos hid])
      · simp only [if_neg hid]
        by_cases hc : c.limits.invocations.toNat ≤ f.running.length
        · rw [if_pos hc]
          exact .inl ⟨_, rfl, trivial⟩
        · rw [if_neg hc, if_neg (by omega)]
          exact .inr rfl

lemma brokenOff_under (hl : c.limits.Within l)
    (hdice : (l.dice.toNat : Int) ≤ Int64.maxValue.toInt) :
    c.BrokenOff RuleError.LimitReached (c.under l) := ⟨reply_under hl hdice, start_under hl⟩

lemma follow_under (hl : c.limits.Within l) (hdice : (l.dice.toNat : Int) ≤ Int64.maxValue.toInt)
    {out out' : Activity → Dice.Plan Outcome} (hout : ∀ b, (out b).BrokenOff CutOff (out' b))
    {asks : Request → Prop} {x : Inquiry (Except RuleError α)}
    (hx : x.Strict (.plain asks) fun _ => True) :
    (x.follow c out).BrokenOff CutOff (x.follow (c.under l) out') :=
  (brokenOff_under hl hdice).follow hout hx

lemma outcome_under (hl : c.limits.Within l)
    (hdice : (l.dice.toNat : Int) ≤ Int64.maxValue.toInt) (f : Frame) (a : Activity) :
    (c.outcome f a).BrokenOff CutOff ((c.under l).outcome f a) :=
  (brokenOff_under hl hdice).outcome f a

end Context

/-- A call that no limit cuts off comes to the same end under all larger limits, by the same throws
of dice. A check of conformance goes on after what is cut off, so it is not among these calls. -/
theorem limits_only_cut_off (c : Context) (l : Limits) (hl : c.limits.Within l)
    (hdice : (l.dice.toNat : Int) ≤ Int64.maxValue.toInt) (f : Frame) (call : Call)
    (hcall : ∀ p t, call ≠ .conformance p t) {δ : Type} (face : δ → ℕ → ℕ × δ) (d : δ) :
    let run := (c.take call f).play face d
    ¬ CutOff run.1.1.1 → ((c.under l).take call f).play face d = run := by
  intro run hrun
  have hcut : (c.result f (call.evaluation c).run).BrokenOff CutOff
      ((c.under l).result f (call.evaluation c).run) :=
    Context.follow_under hl hdice (Context.outcome_under hl hdice f) (Call.strict c hcall)
  have hsame : call.evaluation (c.under l) = call.evaluation c := by cases call <;> rfl
  simp only [run, Context.take, hsame, Context.carry_restores, Dice.Plan.play_map] at hrun ⊢
  rw [hcut.play_eq hrun]

namespace CutOff

def total : VariableId := { name := "total" }

def damage : VariableId := { name := "damage" }

def twoDice : Dice.Roll := ({} : Dice.Roll).addDice 2 6

def throws : Summation where
  id := "throws"
  name := "throws"
  terms := ⟨[⟨none, .diceRoll (.literal twoDice)⟩], by simp⟩

def tight : Context where
  rulebook := { summations := ⟨[throws], by simp⟩ }
  store := ⟨⟨[⟨damage, "", "", ∅, .number (.summation "throws"), []⟩,
    ⟨total, "", "", ∅, .number (.variable damage), []⟩], by decide⟩⟩
  limits := ⟨0, 2, 0, 2⟩

end CutOff

open CutOff in
theorem limits_only_cut_off_tight :
    let face (n _ : ℕ) : ℕ × ℕ := (n, n + 1)
    let run (c : Context) := (c.take (.evaluate total) {}).play face 3
    tight.limits.Within {} ∧ (({} : Limits).dice.toNat : Int) ≤ Int64.maxValue.toInt ∧
      (∀ p t, Call.evaluate total ≠ .conformance p t) ∧ ¬ CutOff (run tight).1.1.1 ∧
      run tight = (((.ok (.value (.number 7)), {}), [6, 6]), 5) ∧
        run (tight.under {}) = run tight := by
  intro face run
  have hwithin : tight.limits.Within {} := ⟨by decide, by decide, by decide, by decide⟩
  have hdice : (({} : Limits).dice.toNat : Int) ≤ Int64.maxValue.toInt := by decide
  have hcall : ∀ p t, Call.evaluate total ≠ .conformance p t := by
    rintro p t ⟨⟩
  have hrun : run tight = (((.ok (.value (.number 7)), {}), [6, 6]), 5) := by
    simp only [run, Context.take, Context.carry_restores]
    rw [show tight.result {} ((Call.evaluate total).evaluation tight).run = _ from
      (Context.result_entered rfl rfl).trans (congrArg (· >>= _) (Context.result_entered rfl rfl))]
    rfl
  have hcut : ¬ CutOff (run tight).1.1.1 := by
    rw [hrun]
    rintro ⟨e, he, _⟩
    cases he
  exact ⟨hwithin, hdice, hcall, hcut, hrun,
    limits_only_cut_off tight {} hwithin hdice {} (.evaluate total) hcall face 3 hcut⟩

end Tabletop
