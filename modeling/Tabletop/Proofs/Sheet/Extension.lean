import Tabletop.Proofs.Evaluation.Depth
import Tabletop.Proofs.Sheet.History
import Tabletop.Proofs.Store.Extension

namespace Tabletop

namespace Context

variable {c : Context} {s : Store} (h : c.store.Extends s)

include h

lemma brokenOff_extends : c.BrokenOff (Store.Misses c.store s) { c with store := s } where
  reply q := by
    cases q with
    | enter | entry | roll | apply => exact .refl _
    | value r =>
      simp only [reply]
      rcases h.resolveSingle_eq r with ⟨e, he, hmiss⟩ | hsame
      · rw [he]
        exact .cut hmiss
      · rw [hsame]
        exact .refl _
  start f a := by
    cases a with
    | run => exact .inr rfl
    | evaluate id =>
      rcases h.get?_eq id with ⟨hs, hmiss⟩ | hsame
      · simp only [start, hs]
        -- a cycle or a limit is found before the variable is looked up
        split
        · exact .inr rfl
        · split
          · exact .inr rfl
          · exact .inl ⟨_, rfl, hmiss⟩
      · exact .inr (by simp only [start, hsame])

lemma evaluation_extends (call : Call) :
    (∃ e, (call.evaluation c).run = .done (.error e) ∧ Store.Misses c.store s e) ∨
      call.evaluation { c with store := s } = call.evaluation c := by
  cases call with
  | values r =>
    rcases h.resolve_eq r with ⟨e, he, hmiss⟩ | hsame
    · refine .inl ⟨e, ?_, hmiss⟩
      rw [Call.evaluation, he]
      rfl
    · exact .inr (by rw [Call.evaluation, Call.evaluation, hsame])
  | _ => exact .inr rfl

lemma play_take_extends {f : Frame} {call : Call} (hcall : ∀ p t, call ≠ .conformance p t)
    {δ : Type} {face : δ → ℕ → ℕ × δ} {d : δ}
    (hrun : ¬ FailsAs (Store.Misses c.store s) ((c.take call f).play face d).1.1.1) :
    ({ c with store := s }.take call f).play face d = (c.take call f).play face d := by
  rcases evaluation_extends h call with ⟨e, he, hmiss⟩ | hsame
  · refine absurd ⟨e, ?_, hmiss⟩ hrun
    rw [take, carry_restores, he]
    rfl
  · have hcut := (brokenOff_extends h).result f (Call.strict c hcall)
    simp only [take, hsame, carry_restores, Dice.Plan.play_map] at hrun ⊢
    rw [hcut.play_eq hrun]

end Context

/-- Untagged variables that are added to a sheet, by hand or by its mechanics, change no call but
those that fail for want of them. A check of conformance goes on after such a failure, so it is not
among these calls. -/
theorem untagged_additions_conservative (s : Sheet) (f : Frame) (call : Call)
    (hcall : ∀ p t, call ≠ .conformance p t) {δ : Type} (face : δ → ℕ → ℕ × δ) (d : δ) :
    let run (store : Store) := ({ s.toContext with store }.take call f).play face d
    (∀ w : Variable, s.store.contains w.id = false → w.tags = ∅ →
      ∃ store, s.store.insert w = .ok store ∧
        ((run s.store).1.1.1 ≠ .error (.unknownVariable w.id) → run store = run s.store)) ∧
    ∀ ids t, s.activate.Ends (ids, t) →
      (∀ v ∈ s.store.slots, v ∈ t.store.slots) ∧
      ∀ without : Store, (∀ v ∈ without.slots, v ∈ t.store.slots) →
        (∀ v ∈ t.store.slots, v ∉ without.slots →
          v.tags = ∅ ∧ (run without).1.1.1 ≠ .error (.unknownVariable v.id)) →
        (t.take call f).play face d = run without := by
  intro run
  refine ⟨fun w hnew hw => ?_, fun ids t ht => ?_⟩
  · obtain ⟨store, hstore⟩ : ∃ store, s.store.insert w = .ok store :=
      ⟨_, by rw [Store.insert, if_neg (by simp [hnew])]⟩
    refine ⟨store, hstore, fun hrun => ?_⟩
    refine Context.play_take_extends (Store.extends_insert hstore hw) hcall ?_
    rintro ⟨e, he, hmiss⟩
    exact hrun (he.trans (congrArg Except.error (Store.eq_of_misses_insert hstore hmiss)))
  · obtain ⟨vs, _, rfl⟩ := Sheet.activate_cases ht
    refine ⟨fun v => Store.mem_gains, fun without hsub hnew => ?_⟩
    have hextends : without.Extends (vs.foldl Sheet.gain s.store) :=
      ⟨hsub, fun v hv hv' => (hnew v hv hv').1⟩
    refine Context.play_take_extends (c := { s.toContext with store := without }) hextends hcall ?_
    rintro ⟨_, he, v, hv, hv', rfl⟩
    exact (hnew v hv hv').2 he

namespace Trained

def strength : VariableId := { name := "strength" }

def total : VariableId := { name := "total" }

def ready : VariableId := { name := "ready" }

def check : Summation where
  id := "check"
  name := "Check"
  terms := ⟨[⟨some "ability", .number (.variable (.tag "ability"))⟩,
    ⟨some "throw", .diceRoll (.literal { quantities := ⟨[⟨6, 1⟩], by simp⟩ })⟩], by decide +kernel⟩

def bonus : Variable := { id := { name := "bonus" }, label := "Bonus", setting := .number .unknown }

def motto : Variable := { id := { name := "motto" }, label := "Motto", setting := .text .unknown }

def trained : Mechanic where
  id := "trained"
  label := "Trained"
  requirements := [ready]
  gains := [bonus]

def rules : Rulebook := { summations := ⟨[check], by simp⟩, mechanics := [trained] }

def ability : Variable :=
  ⟨strength, "Strength", "", .ofList ["ability"], .number (.literal 2), []⟩

def prepared : Variable := ⟨ready, "Ready", "", ∅, .boolean (.literal true), []⟩

def sum : Variable := ⟨total, "Total", "", ∅, .number (.summation "check"), []⟩

def novice : Sheet := { rulebook := rules, store := ⟨⟨[prepared, ability, sum], by decide⟩⟩ }

def expert : Sheet := { rulebook := rules, store := ⟨⟨[bonus, prepared, ability, sum], by decide⟩⟩ }

lemma activate_novice : novice.activate = .done (["trained"], expert) := by
  have hactive : novice.fresh (Sheet.active rules.mechanics) = .done [trained] := by
    rw [Context.fresh_eq]
    exact (Context.result_entered rfl rfl).trans rfl
  change novice.fresh (Sheet.active rules.mechanics) >>= _ = _
  rw [hactive]
  rfl

end Trained

open Trained in
theorem untagged_additions_conservative_trained :
    let face (n _ : ℕ) : ℕ × ℕ := (n, n + 1)
    let run (store : Store) := ({ novice.toContext with store }.take (.evaluate total) {}).play face 3
    (∀ p t, Call.evaluate total ≠ .conformance p t) ∧
      run novice.store = (((.ok (.value (.number 5)), {}), [6]), 4) ∧
      (∃ store, novice.store.insert motto = .ok store ∧ run store = run novice.store) ∧
      novice.activate.Ends (["trained"], expert) ∧
        (expert.take (.evaluate total) {}).play face 3 = run novice.store := by
  intro face run
  have hcall : ∀ p t, Call.evaluate total ≠ .conformance p t := by
    rintro p t ⟨⟩
  have hrun : run novice.store = (((.ok (.value (.number 5)), {}), [6]), 4) := by
    simp only [run, Context.take, Context.carry_restores]
    rw [show novice.result {} ((Call.evaluate total).evaluation novice.toContext).run = _ from
      (Context.result_entered rfl rfl).trans (congrArg (· >>= _) (Context.result_entered rfl rfl))]
    rfl
  have hactivate : novice.activate.Ends (["trained"], expert) := by
    rw [activate_novice]
    exact .done _
  have hmissed (id : VariableId) : (run novice.store).1.1.1 ≠ .error (.unknownVariable id) := by
    rw [hrun]
    rintro ⟨⟩
  obtain ⟨hinsert, hgains⟩ :=
    untagged_additions_conservative novice {} (.evaluate total) hcall face 3
  obtain ⟨store, hstore, hsame⟩ := hinsert motto rfl rfl
  obtain ⟨hkept, hwithout⟩ := hgains _ _ hactivate
  refine ⟨hcall, hrun, ⟨store, hstore, hsame (hmissed _)⟩, hactivate, ?_⟩
  refine hwithout novice.store hkept fun v hv hnew => ⟨?_, hmissed v.id⟩
  -- the bonus is all that is new
  rcases List.mem_cons.1 hv with rfl | hv
  · rfl
  · exact absurd hv hnew

end Tabletop
