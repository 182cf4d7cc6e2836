import Tabletop.Proofs.Evaluation.Unwinding
import Tabletop.Proofs.Store.History
import Tabletop.Sheet.Change

namespace Tabletop

open Sheet (Change)

namespace Sheet

variable {s t : Sheet} {x : Change} {r : Except RuleError Unit}

structure Lawful (s : Sheet) : Prop where
  store : s.store.Lawful
  gains : ∀ m ∈ s.rulebook.mechanics, ∀ v ∈ m.gains, v.Lawful

def Change.addressed : Change → Option VariableId
  | set id _ | record id _ | assign id _ _ => some id
  | insert _ | activate => none

def Change.update? : Change → Option (Store → Except RuleError Store)
  | insert v => some (·.insert v)
  | set id setting => some (·.set id setting)
  | record id a => some (·.record id a)
  | assign id x description => some (·.assign id x description)
  | activate => none

lemma make_assign (s : Sheet) (id : VariableId) (x : Float) (description : Option String) :
    s.make (.assign id x description) = .done (s.edit (·.assign id x description)) := by
  cases hset : s.store.set id (.number (.literal x)) with
  | error e => simp [make, edit, Store.assign, hset, bind, Except.bind]
  | ok store =>
    obtain ⟨v, hv, htype, rfl⟩ := Store.set_eq_ok.1 hset
    obtain ⟨t, ht⟩ : ∃ t, s.store.assign id x description = .ok t :=
      ⟨_, Store.assign_eq_ok.2 ⟨v, hv, htype, rfl⟩⟩
    have hrecord := ht
    rw [Store.assign, hset] at hrecord
    simp only [bind, Except.bind] at hrecord
    simp [make, edit, hset, ht, hrecord]

lemma make_update {f : Store → Except RuleError Store} (hf : x.update? = some f) (s : Sheet) :
    s.make x = .done (s.edit f) := by
  cases x with
  | insert | set | record =>
    cases hf
    rfl
  | assign id y description =>
    cases hf
    exact make_assign s id y description
  | activate => cases hf

lemma active_subset {c : Context} {ms ms' : List Mechanic} (h : (c.fresh (active ms)).Ends ms') :
    ms' ⊆ ms := by
  rw [Context.fresh_eq] at h
  induction ms generalizing ms' with
  | nil =>
    cases h
    exact List.nil_subset _
  | cons m ms ih =>
    simp only [active, Context.result_bind, Dice.Plan.ends_bind] at h
    obtain ⟨holds, _, rest, hrest, h⟩ := h
    have hsub := ih hrest
    split at h
    · cases h
      exact List.cons_subset_cons m hsub
    · cases h
      exact List.subset_cons_of_subset m hsub

lemma activate_cases {ids : List MechanicId} (h : s.activate.Ends (ids, t)) :
    ∃ vs : List Variable, (∀ v ∈ vs, ∃ m ∈ s.rulebook.mechanics, v ∈ m.gains) ∧
      t = { s with store := vs.foldl gain s.store } := by
  rw [activate, Dice.Plan.ends_bind] at h
  obtain ⟨ms, hms, h⟩ := h
  cases h
  refine ⟨_, fun v hv => ?_, rfl⟩
  obtain ⟨m, hm, hv⟩ := List.mem_flatMap.1 hv
  exact ⟨m, active_subset hms hm, hv⟩

lemma make_cases (h : (s.make x).Ends (r, t)) :
    (∃ f store, x.update? = some f ∧ f s.store = .ok store ∧ r = .ok () ∧ t = { s with store }) ∨
      (∃ e, r = .error e ∧ t = s) ∨
      x = .activate ∧ r = .ok () ∧ ∃ vs : List Variable,
        (∀ v ∈ vs, ∃ m ∈ s.rulebook.mechanics, v ∈ m.gains) ∧
          t = { s with store := vs.foldl gain s.store } := by
  cases hf : x.update? with
  | some f =>
    rw [make_update hf, Dice.Plan.ends_done, edit] at h
    split at h
    · rename_i store hstore
      cases h
      exact .inl ⟨f, store, rfl, hstore, rfl, rfl⟩
    · rename_i e _
      cases h
      exact .inr (.inl ⟨e, rfl, rfl⟩)
  | none =>
    cases x with
    | insert | set | record | assign => cases hf
    | activate =>
      rw [make, Dice.Plan.ends_bind] at h
      obtain ⟨⟨ids, u⟩, hu, h⟩ := h
      cases h
      exact .inr (.inr ⟨rfl, rfl, activate_cases hu⟩)

lemma kept_update {f : Store → Except RuleError Store} {store : Store} (hs : s.store.Lawful)
    (hx : ∀ v, x = .insert v → v.Lawful) (hf : x.update? = some f) (h : f s.store = .ok store) :
    store.Lawful ∧ s.store.Precedes store := by
  cases x with
  | insert v =>
    cases hf
    exact Store.kept_insert hs (hx v rfl) h
  | set =>
    cases hf
    exact Store.kept_set hs h
  | record =>
    cases hf
    exact Store.kept_record hs h
  | assign =>
    cases hf
    exact Store.kept_assign hs h
  | activate => cases hf

lemma kept_make (hs : s.Lawful) (hx : ∀ v, x = .insert v → v.Lawful)
    (h : (s.make x).Ends (r, t)) : t.Lawful ∧ s.store.Precedes t.store := by
  rcases make_cases h with ⟨f, store, hf, hstore, _, rfl⟩ | ⟨_, _, rfl⟩ | ⟨_, _, vs, hvs, rfl⟩
  · obtain ⟨hlawful, hprecedes⟩ := kept_update hs.store hx hf hstore
    exact ⟨⟨hlawful, hs.gains⟩, hprecedes⟩
  · exact ⟨hs, .refl _⟩
  · have hlawful : ∀ v ∈ vs, v.Lawful := by
      intro v hv
      obtain ⟨m, hm, hv⟩ := hvs v hv
      exact hs.gains m hm v hv
    obtain ⟨hstore, hprecedes⟩ := Store.kept_gains hs.store hlawful
    exact ⟨⟨hstore, hs.gains⟩, hprecedes⟩

lemma kept_makeAll {xs : List Change} (hs : s.Lawful) (hxs : ∀ v, .insert v ∈ xs → v.Lawful)
    (h : (s.makeAll xs).Ends t) : t.Lawful ∧ s.store.Precedes t.store := by
  induction xs generalizing s with
  | nil =>
    cases h
    exact ⟨hs, .refl _⟩
  | cons x xs ih =>
    rw [makeAll, Dice.Plan.ends_bind] at h
    obtain ⟨⟨r, u⟩, hu, h⟩ := h
    obtain ⟨hlawful, hsu⟩ := kept_make hs (fun v hv => hxs v (by simp [hv])) hu
    obtain ⟨hlawful, hut⟩ := ih hlawful (fun v hv => hxs v (by simp [hv])) h
    exact ⟨hlawful, hsu.trans hut⟩

lemma unchanged_of_make {e : RuleError} (h : (s.make x).Ends (.error e, t)) : t = s := by
  rcases make_cases h with ⟨_, _, _, _, hr, _⟩ | ⟨_, _, ht⟩ | ⟨_, hr, _⟩
  · cases hr
  · exact ht
  · cases hr

lemma sameBut_of_make {id : VariableId} (hx : x.addressed = some id)
    (h : (s.make x).Ends (r, t)) : s.store.SameBut id t.store := by
  rcases make_cases h with ⟨f, store, hf, hstore, _, rfl⟩ | ⟨_, _, rfl⟩ | ⟨rfl, _⟩
  · cases x with
    | insert | activate => cases hx
    | set =>
      cases hx
      cases hf
      obtain ⟨v, hv, _, rfl⟩ := Store.set_eq_ok.1 hstore
      exact Store.sameBut_replace hv rfl
    | record =>
      cases hx
      cases hf
      obtain ⟨v, hv, _, rfl⟩ := Store.record_eq_ok.1 hstore
      exact Store.sameBut_replace hv rfl
    | assign =>
      cases hx
      cases hf
      obtain ⟨v, hv, _, rfl⟩ := Store.assign_eq_ok.1 hstore
      exact Store.sameBut_replace hv rfl
  · exact fun _ _ => rfl
  · cases hx

lemma assigned_of_make {id : VariableId} {y : Float} {description : Option String}
    (h : (s.make (.assign id y description)).Ends (.ok (), t)) :
    ∃ v, s.store.get? id = some v ∧ t.store.get? id = some { v with
      setting := .number (.literal y), history := v.history ++ [⟨.literal y, description⟩] } := by
  rcases make_cases h with ⟨f, store, hf, hstore, _, rfl⟩ | ⟨_, hr, _⟩ | ⟨hx, _⟩
  · cases hf
    obtain ⟨v, hv, _, rfl⟩ := Store.assign_eq_ok.1 hstore
    refine ⟨v, hv, ?_⟩
    rw [Store.get?_replace, if_pos (Store.id_of_get? hv)]
  · cases hr
  · cases hx

end Sheet

/-- Between any two moments of play a variable stays, and at most its setting changes and its
history grows. Only number variables have a history. A change that fails leaves the sheet alone, one
made to a variable leaves the others alone, and an assignment is recorded once. -/
theorem histories_only_grow {vs : List Variable} {start : Sheet}
    (hstart : Store.ofVariables vs = .ok start.store) (hvs : ∀ v ∈ vs, v.Made)
    (hgains : ∀ m ∈ start.rulebook.mechanics, ∀ v ∈ m.gains, v.Made) (earlier later : List Change)
    (hinserted : ∀ v, .insert v ∈ earlier ++ later → v.Made) {s : Sheet}
    (hs : (start.makeAll earlier).Ends s) :
    (∀ t, (s.makeAll later).Ends t → s.store.Precedes t.store) ∧
    (∀ id v, s.store.get? id = some v → v.type ≠ .number → v.history = []) ∧
    ∀ x r t, (s.make x).Ends (r, t) →
      (∀ e, r = .error e → t = s) ∧
      (∀ id, x.addressed = some id → s.store.SameBut id t.store) ∧
      ∀ id y description, x = .assign id y description → r = .ok () →
        ∃ v, s.store.get? id = some v ∧ t.store.get? id = some { v with
          setting := .number (.literal y)
          history := v.history ++ [⟨.literal y, description⟩] } := by
  have hlawful : start.Lawful := by
    constructor
    · exact Store.lawful_of_ofVariables (fun v hv => (hvs v hv).lawful) hstart
    · exact fun m hm v hv => (hgains m hm v hv).lawful
  have hs : s.Lawful :=
    (Sheet.kept_makeAll hlawful (fun v hv => (hinserted v (by simp [hv])).lawful) hs).1
  refine ⟨fun t ht => ?_, fun id v hv => ?_, fun x r t h => ⟨?_, ?_, ?_⟩⟩
  · exact (Sheet.kept_makeAll hs (fun v hv => (hinserted v (by simp [hv])).lawful) ht).2
  · exact hs.store v (Store.get?_eq_some_iff.1 hv).1
  · rintro e rfl
    exact Sheet.unchanged_of_make h
  · intro id hx
    exact Sheet.sameBut_of_make hx h
  · rintro id y description rfl rfl
    exact Sheet.assigned_of_make h

namespace History

def hp : VariableId := { name := "hp" }

def motto : VariableId := { name := "motto" }

def courage : VariableId := { name := "courage" }

def rolled : Assignment := ⟨.literal 8, some "rolled"⟩

def fall : Assignment := ⟨.literal 5, some "fall"⟩

def points (x : Float) (history : List Assignment) : Variable :=
  ⟨hp, "Hit points", "", ∅, .number (.literal x), history⟩

def words : Variable := ⟨motto, "Motto", "", ∅, .text (.literal "Onward"), []⟩

def resolve : Variable := { id := courage, label := "Courage", setting := .number (.literal 1) }

def pointsJson : Json :=
  .record [("id", .record [("name", .text "hp")]), ("label", .text "Hit points"),
    ("value", .record [("number", .record [
      ("kind", .text "literal"), ("value", .number (.float 8))])]),
    ("history", .record [("entries", .list [.record [
      ("value", .record [("kind", .text "literal"), ("value", .number (.float 8))]),
      ("description", .text "rolled")]])])]

def wordsJson : Json :=
  .record [("case", .text "variable_text"), ("id", .text "motto"), ("label", .text "Motto"),
    ("value", .record [("case", .text "text_literal"), ("value", .text "Onward")])]

def brave : Mechanic := { id := "brave", label := "Brave", gains := [resolve] }

def holding (store : Store) : Sheet := { rulebook := { mechanics := [brave] }, store }

def before : Sheet := holding ⟨⟨[points 8 [rolled], words], by decide⟩⟩

def middle : Sheet := holding ⟨⟨[points 5 [rolled, fall], words], by decide⟩⟩

def after : Sheet := holding ⟨⟨[resolve, points 5 [rolled, fall, rolled], words], by decide⟩⟩

lemma points_made : (points 8 [rolled]).Made :=
  .load (j := pointsJson) (by decide +kernel)

lemma words_made : words.Made :=
  .decode (n := ⟨[], wordsJson⟩) (by decide +kernel)

end History

open History in
theorem histories_only_grow_in_play :
    let vs := [points 8 [rolled], words]
    let earlier : List Change := [.set motto (.number .unknown), .assign hp 5 (some "fall")]
    let later : List Change := [.insert words, .activate, .record hp rolled]
    Store.ofVariables vs = .ok before.store ∧ (∀ v ∈ vs, v.Made) ∧
      (∀ m ∈ before.rulebook.mechanics, ∀ v ∈ m.gains, v.Made) ∧
      (∀ v, .insert v ∈ earlier ++ later → v.Made) ∧
      (before.makeAll earlier).Ends middle ∧ (middle.makeAll later).Ends after ∧
      middle.store.Precedes after.store ∧
      (middle.store.get? motto = some words ∧ words.type ≠ .number ∧ words.history = []) ∧
      ((middle.make (.record motto fall)).Ends (.error (.historyUnsupported motto), middle) ∧
        middle.store.SameBut motto middle.store) ∧
      (before.make (.assign hp 5 (some "fall"))).Ends (.ok (), middle) ∧
        ∃ v, before.store.get? hp = some v ∧ middle.store.get? hp = some { v with
          setting := .number (.literal 5)
          history := v.history ++ [⟨.literal 5, some "fall"⟩] } := by
  intro vs earlier later
  have hstart : Store.ofVariables vs = .ok before.store := by decide +kernel
  have hvs : ∀ v ∈ vs, v.Made := by
    simp only [vs, List.forall_mem_cons]
    exact ⟨points_made, words_made, by simp⟩
  have hgains : ∀ m ∈ before.rulebook.mechanics, ∀ v ∈ m.gains, v.Made := by
    intro m hm v hv
    obtain rfl := List.mem_singleton.1 hm
    obtain rfl := List.mem_singleton.1 hv
    exact .new courage "Courage" (.number (.literal 1))
  have hinserted : ∀ v, .insert v ∈ earlier ++ later → v.Made := by
    intro v hv
    obtain rfl : v = words := by simpa [earlier, later] using hv
    exact words_made
  have hmiddle : (before.makeAll earlier).Ends middle := Dice.Plan.ends_done.2 rfl
  have hafter : (middle.makeAll later).Ends after := Dice.Plan.ends_done.2 rfl
  have hmotto : middle.store.get? motto = some words := rfl
  have hrefused : (middle.make (.record motto fall)).Ends
      (.error (.historyUnsupported motto), middle) := Dice.Plan.ends_done.2 rfl
  have hassigned : (before.make (.assign hp 5 (some "fall"))).Ends (.ok (), middle) :=
    Dice.Plan.ends_done.2 rfl
  have htext : words.type ≠ .number := by decide
  obtain ⟨hgrow, hnumbers, hstep⟩ :=
    histories_only_grow hstart hvs hgains earlier later hinserted hmiddle
  obtain ⟨_, hothers, _⟩ := hstep _ _ _ hrefused
  obtain ⟨_, _, hrecorded⟩ :=
    (histories_only_grow hstart hvs hgains [] [] (by simp) (Dice.Plan.ends_done.2 rfl)).2.2
      _ _ _ hassigned
  exact ⟨hstart, hvs, hgains, hinserted, hmiddle, hafter, hgrow after hafter,
    ⟨hmotto, htext, hnumbers motto words hmotto htext⟩, ⟨hrefused, hothers motto rfl⟩, hassigned,
    hrecorded hp 5 (some "fall") rfl rfl⟩

end Tabletop
