import Mathlib.Data.Finset.Card
import Tabletop.Proofs.Evaluation.Reuse
import Tabletop.Proofs.Sheet.History

/-! What activation brings onto a sheet: of the variables that the mechanics in force declare, those
that are not there yet. Which mechanics are in force is decided on the sheet as it was. -/

namespace Tabletop

variable {δ : Type}

namespace Store

variable {s : Store} {id : VariableId} {v : Variable} {vs : List Variable}

lemma gain_of_mem (h : v.id ∈ s.ids) : Sheet.gain s v = s := by
  rw [Sheet.gain, insert, if_pos (mem_ids_iff.1 h)]

lemma gain_of_get? (h : s.get? v.id = none) : Sheet.gain s v = ⟨s.slots.replace v⟩ := by
  rw [Sheet.gain, insert_eq_ok.2 ⟨h, rfl⟩]

lemma get?_gain (s : Store) (v : Variable) (id : VariableId) :
    (Sheet.gain s v).get? id = (s.get? id).or (if v.id = id then some v else none) := by
  cases hv : s.get? v.id with
  | some w =>
    rw [gain_of_mem (mem_ids_of_get? hv)]
    split
    · rename_i hid
      rw [← hid, hv, Option.some_or]
    · rw [Option.or_none]
  | none =>
    rw [gain_of_get? hv, get?_replace]
    split
    · rename_i hid
      rw [← hid, hv, Option.none_or]
    · rw [Option.or_none]

lemma get?_gains (s : Store) (vs : List Variable) (id : VariableId) :
    (vs.foldl Sheet.gain s).get? id = (s.get? id).or (vs.find? (·.id = id)) := by
  induction vs generalizing s with
  | nil => rw [List.foldl_nil, List.find?_nil, Option.or_none]
  | cons v vs ih =>
    rw [List.foldl_cons, ih, get?_gain, Option.or_assoc, List.find?_cons]
    by_cases hid : v.id = id <;> simp [hid]

lemma gains_of_mem (h : ∀ v ∈ vs, v.id ∈ s.ids) : vs.foldl Sheet.gain s = s := by
  induction vs with
  | nil => rfl
  | cons v vs ih =>
    obtain ⟨hv, hvs⟩ := List.forall_mem_cons.1 h
    rw [List.foldl_cons, gain_of_mem hv, ih hvs]

lemma ids_subset_replace : s.ids ⊆ (⟨s.slots.replace v⟩ : Store).ids := by
  intro id hid
  rw [mem_ids_iff, contains] at hid ⊢
  rw [get?_replace]
  split
  · rfl
  · exact hid

lemma mem_ids_gains :
    id ∈ (vs.foldl Sheet.gain s).ids ↔ id ∈ s.ids ∨ ∃ v ∈ vs, v.id = id := by
  rw [mem_ids_iff, mem_ids_iff, contains, contains, get?_gains, Option.isSome_or, Bool.or_eq_true,
    List.find?_isSome]
  simp

end Store

namespace Sheet

variable {s t u : Sheet}

/-- Checks mechanics one after another, each with an evaluator of its own, on a sheet that stays as
it is: what each check has come to, and the dice that were asked for. -/
def verdicts (s : Sheet) (face : δ → ℕ → ℕ × δ) :
    List Mechanic → δ → (List (Mechanic × Except RuleError Bool) × List ℕ) × δ
  | [], d => (([], []), d)
  | m :: ms, d =>
    let ((verdict, asked), d) := (s.fresh m.isActive.run).play face d
    let ((rest, more), d) := s.verdicts face ms d
    (((m, verdict) :: rest, asked ++ more), d)

def inForce (verdicts : List (Mechanic × Except RuleError Bool)) : List Mechanic :=
  (verdicts.filter fun (_, verdict) => verdict = .ok true).map Prod.fst

lemma play_active (s : Sheet) (face : δ → ℕ → ℕ × δ) (ms : List Mechanic) (d : δ) :
    (s.fresh (active ms)).play face d =
      let ((vs, asked), d) := s.verdicts face ms d
      ((inForce vs, asked), d) := by
  induction ms generalizing d with
  | nil => rfl
  | cons m ms ih =>
    simp only [Context.fresh_eq] at ih
    have hdone (ms : List Mechanic) (d : δ) :
        (s.result {} (pure ms)).play face d = ((ms, []), d) := rfl
    simp only [active, verdicts, Context.fresh_eq, Context.result_bind, Dice.Plan.play_bind, ih,
      hdone, List.append_nil]
    -- a mechanic that cannot be decided is left out like one that does not hold
    generalize (s.result {} m.isActive.run).play face d = checked
    obtain ⟨⟨e | (_ | _), asked⟩, d⟩ := checked <;> rfl

def gaining (s : Sheet) (ms : List Mechanic) : Sheet :=
  { s with store := (ms.flatMap Mechanic.gains).foldl gain s.store }

lemma play_activate (s : Sheet) (face : δ → ℕ → ℕ × δ) (d : δ) :
    s.activate.play face d =
      let ((vs, asked), d) := s.verdicts face s.rulebook.mechanics d
      ((((inForce vs).map Mechanic.id, s.gaining (inForce vs)), asked), d) := by
  rw [activate, Dice.Plan.play_bind, play_active]
  simp only [Dice.Plan.pure_eq, Dice.Plan.play, List.append_nil]
  rfl

def declared (s : Sheet) : Finset VariableId :=
  (s.rulebook.mechanics.flatMap fun m => m.gains.map Variable.id).toFinset

def missing (s : Sheet) : Finset VariableId := s.declared.filter (· ∉ s.store.ids)

/-- A session of play in which so many activations change the store. -/
inductive Session : Sheet → ℕ → Sheet → Prop
  | rest (s : Sheet) : Session s 0 s
  | change {s t u : Sheet} {x : Change} {r : Except RuleError Unit} {n : ℕ} :
      x ≠ .activate → (s.make x).Ends (r, t) → Session t n u → Session s n u
  | idle {s t u : Sheet} {ids : List MechanicId} {n : ℕ} :
      s.activate.Ends (ids, t) → t.store = s.store → Session t n u → Session s n u
  | active {s t u : Sheet} {ids : List MechanicId} {n : ℕ} :
      s.activate.Ends (ids, t) → t.store ≠ s.store → Session t n u → Session s (n + 1) u

lemma missing_subset (hrules : t.rulebook = s.rulebook) (hids : s.store.ids ⊆ t.store.ids) :
    t.missing ⊆ s.missing := by
  intro id hid
  obtain ⟨hdeclared, hmissing⟩ := Finset.mem_filter.1 hid
  rw [declared, hrules] at hdeclared
  exact Finset.mem_filter.2 ⟨hdeclared, fun h => hmissing (hids h)⟩

lemma missing_activate {ids : List MechanicId} (h : s.activate.Ends (ids, t)) :
    t.missing ⊆ s.missing ∧ (t.store ≠ s.store → t.missing ⊂ s.missing) := by
  obtain ⟨vs, hvs, rfl⟩ := activate_cases h
  have hsub : missing { s with store := vs.foldl gain s.store } ⊆ s.missing :=
    missing_subset rfl fun id hid => Store.mem_ids_gains.2 (.inl hid)
  refine ⟨hsub, fun hchanged => ?_⟩
  -- if nothing new had been declared, the store would be as it was
  obtain ⟨v, hv, hnew⟩ : ∃ v ∈ vs, v.id ∉ s.store.ids := by
    by_contra hall
    refine hchanged (Store.gains_of_mem fun v hv => ?_)
    by_contra hnew
    exact hall ⟨v, hv, hnew⟩
  obtain ⟨m, hm, hv'⟩ := hvs v hv
  have hmissing : v.id ∈ s.missing := by
    refine Finset.mem_filter.2 ⟨List.mem_toFinset.2 (List.mem_flatMap.2 ⟨m, hm, ?_⟩), hnew⟩
    exact List.mem_map_of_mem hv'
  refine hsub.ssubset_of_ne fun heq => ?_
  rw [← heq] at hmissing
  exact (Finset.mem_filter.1 hmissing).2 (Store.mem_ids_gains.2 (.inr ⟨v, hv, rfl⟩))

lemma missing_make {x : Change} {r : Except RuleError Unit} (h : (s.make x).Ends (r, t)) :
    t.missing ⊆ s.missing := by
  rcases make_cases h with ⟨f, store, hf, hstore, _, rfl⟩ | ⟨_, _, rfl⟩ | ⟨_, _, vs, _, rfl⟩
  · refine missing_subset rfl ?_
    cases x with
    | insert v =>
      cases hf
      obtain ⟨_, rfl⟩ := Store.insert_eq_ok.1 hstore
      exact Store.ids_subset_replace
    | set =>
      cases hf
      obtain ⟨_, _, _, rfl⟩ := Store.set_eq_ok.1 hstore
      exact Store.ids_subset_replace
    | record =>
      cases hf
      obtain ⟨_, _, _, rfl⟩ := Store.record_eq_ok.1 hstore
      exact Store.ids_subset_replace
    | assign =>
      cases hf
      obtain ⟨_, _, _, rfl⟩ := Store.assign_eq_ok.1 hstore
      exact Store.ids_subset_replace
    | activate => cases hf
  · exact Finset.Subset.refl _
  · exact missing_subset rfl fun id hid => Store.mem_ids_gains.2 (.inl hid)

/-- Every activation that changes the store adds a variable that was missing, and none is lost. -/
lemma Session.count_le {n : ℕ} (h : Session s n u) : n + u.missing.card ≤ s.missing.card := by
  induction h with
  | rest s => exact Nat.le_of_eq (Nat.zero_add _)
  | change _ hmake _ ih => exact ih.trans (Finset.card_le_card (missing_make hmake))
  | idle h _ _ ih => exact ih.trans (Finset.card_le_card (missing_activate h).1)
  | active h hchanged _ ih =>
    have hlt := Finset.card_lt_card ((missing_activate h).2 hchanged)
    omega

lemma keys_verdicts (s : Sheet) (face : δ → ℕ → ℕ × δ) (ms : List Mechanic) (d : δ) :
    (s.verdicts face ms d).1.1.map Prod.fst = ms := by
  induction ms generalizing d with
  | nil => rfl
  | cons m ms ih => simp only [verdicts, List.map_cons, ih]

end Sheet

open Sheet

/-- The mechanics that hold on the sheet as it was are returned, in the order of the rulebook. What
is on the sheet stays as it is, and of the variables that these mechanics declare the first one
under each other name is added. So no more activations change the store than variables are
declared. -/
theorem activation_exact (s : Sheet) :
    (∀ {δ : Type} (face : δ → ℕ → ℕ × δ) (d : δ),
      let checked := s.verdicts face s.rulebook.mechanics d
      let ms := inForce checked.1.1
      checked.1.1.map Prod.fst = s.rulebook.mechanics ∧
      ∃ t, s.activate.play face d = (((ms.map Mechanic.id, t), checked.1.2), checked.2) ∧
        t = { s with store := t.store } ∧
        (∀ id, t.store.get? id =
          (s.store.get? id).or ((ms.flatMap Mechanic.gains).find? (·.id = id))) ∧
        ∀ id, id ∈ t.store.ids ↔ id ∈ s.store.ids ∨ ∃ m ∈ ms, ∃ v ∈ m.gains, v.id = id) ∧
    ∀ n u, Session s n u → n ≤ s.declared.card := by
  refine ⟨fun face d => ?_, fun n u h => ?_⟩
  · refine ⟨s.keys_verdicts face _ d, _, s.play_activate face d, rfl,
      fun id => Store.get?_gains _ _ id, fun id => ?_⟩
    rw [gaining, Store.mem_ids_gains]
    simp only [List.mem_flatMap]
    exact or_congr_right (by grind)
  · have hcount := h.count_le
    have hsub : s.missing.card ≤ s.declared.card := Finset.card_le_card (Finset.filter_subset _ _)
    omega

namespace History

def doubtful : Mechanic :=
  { id := "doubtful", label := "Doubtful", requirements := [motto], gains := [words] }

def stubborn : Mechanic :=
  { id := "stubborn", label := "Stubborn",
    gains := [{ resolve with label := "Grit" }, points 9 []] }

def wounded : Sheet where
  rulebook := { mechanics := [brave, doubtful, stubborn] }
  store := ⟨⟨[points 5 [rolled, fall]], by decide⟩⟩

def heartened : Sheet :=
  { wounded with store := ⟨⟨[resolve, points 5 [rolled, fall]], by decide⟩⟩ }

end History

open History in
theorem activation_exact_heartened :
    (∃ t, wounded.activate.play (fun (_ : Unit) _ => (1, ())) () =
      (((["brave", "stubborn"], t), []), ()) ∧
      t.store.get? courage = some resolve ∧ t.store.get? hp = wounded.store.get? hp ∧
      motto ∉ t.store.ids) ∧
    Session wounded 1 heartened ∧ 1 ≤ wounded.declared.card ∧ wounded.declared.card = 3 := by
  have hfirst : wounded.activate.Ends (["brave", "stubborn"], heartened) :=
    Dice.Plan.ends_done.2 rfl
  have hsecond : heartened.activate.Ends (["brave", "stubborn"], heartened) :=
    Dice.Plan.ends_done.2 rfl
  have hcourse : Session wounded 1 heartened :=
    .active hfirst (by decide +kernel) (.idle hsecond rfl (.rest _))
  obtain ⟨hexact, hcount⟩ := activation_exact wounded
  obtain ⟨_, t, hplay, _, hget, hids⟩ := hexact (fun (_ : Unit) _ => (1, ())) ()
  refine ⟨⟨t, hplay, (hget courage).trans rfl, (hget hp).trans rfl, fun h => ?_⟩, hcourse,
    hcount 1 heartened hcourse, by decide +kernel⟩
  have hmotto := (hids motto).1 h
  revert hmotto
  decide +kernel

end Tabletop
