import Tabletop.Proofs.Json.Fields
import Tabletop.Proofs.Stored.Rule
import Tabletop.Proofs.Stored.ValueSet

namespace Tabletop

open Json (KeepsFinite keepsFinite_nil keepsFinite_float? finite_of_fields? finite_of_labelled?
  finite_of_onlyField? finite_of_tagged?)

namespace Dice

lemma Modifier.keepsFinite : KeepsFinite ofJson? fun m => [m.value] := by
  intro j hj m h
  simp only [ofJson?, bind, Option.bind_eq_some_iff] at h
  obtain ⟨fields, hfields, value, hvalue, name, _, h⟩ := h
  cases h
  exact keepsFinite_float?.required? (finite_of_fields? hj hfields) hvalue

lemma Roll.keepsFinite : KeepsFinite ofJson? numbers := by
  intro j hj r h
  simp only [ofJson?, bind, Option.bind_eq_some_iff] at h
  obtain ⟨fields, hfields, quantities, _, modifiers, hmodifiers, name, _, h⟩ := h
  cases h
  have hread :=
    Modifier.keepsFinite.listOf?.defaulted? (finite_of_fields? hj hfields) (by simp) hmodifiers
  intro x hx
  obtain ⟨m, hm, rfl⟩ := List.mem_map.1 hx
  exact hread m.value (List.mem_flatMap.2 ⟨m, Sorted.mem_of_mem_ofList hm, by simp⟩)

end Dice

lemma NumberRef.keepsFinite : KeepsFinite ofJson? numbers := by
  intro j hj r h
  simp only [ofJson?, bind, Option.bind_eq_some_iff] at h
  obtain ⟨field, hfield, h⟩ := h
  have hheld := finite_of_onlyField? hj hfield
  split at h
  · exact keepsFinite_float?.wrap hheld h fun _ => rfl
  · exact keepsFinite_nil.wrap hheld h fun _ => rfl
  · exact keepsFinite_nil.wrap hheld h fun _ => rfl
  · cases h

lemma DiceRef.keepsFinite : KeepsFinite ofJson? numbers := by
  intro j hj r h
  simp only [ofJson?, bind, Option.bind_eq_some_iff] at h
  obtain ⟨field, hfield, h⟩ := h
  have hheld := finite_of_onlyField? hj hfield
  split at h
  · exact Dice.Roll.keepsFinite.wrap hheld h fun _ => rfl
  · exact keepsFinite_nil.wrap hheld h fun _ => rfl
  · cases h

lemma DataRef.keepsFinite : KeepsFinite ofJson? numbers := by
  intro j hj r h
  simp only [ofJson?, bind, Option.bind_eq_some_iff] at h
  obtain ⟨field, hfield, h⟩ := h
  have hheld := finite_of_onlyField? hj hfield
  split at h
  · exact keepsFinite_nil.wrap hheld h fun _ => rfl
  · exact NumberRef.keepsFinite.wrap hheld h fun _ => rfl
  · exact DiceRef.keepsFinite.wrap hheld h fun _ => rfl
  · cases h

lemma Invocation.keepsFinite : KeepsFinite ofJson? numbers := by
  intro j hj i h
  simp only [ofJson?, bind, Option.bind_eq_some_iff] at h
  obtain ⟨fields, hfields, program, _, arguments, harguments, h⟩ := h
  cases h
  exact DataRef.keepsFinite.listOf?.defaulted? (finite_of_fields? hj hfields) (by simp) harguments

lemma BooleanSetting.keepsFinite : KeepsFinite ofJson? numbers := by
  intro j hj s h
  simp only [ofJson?, bind, Option.bind_eq_some_iff] at h
  obtain ⟨⟨kind, _⟩, htagged, held, rfl, h⟩ := h
  have hheld := finite_of_tagged? hj htagged
  split at h
  · exact keepsFinite_nil.wrap hheld h fun _ => rfl
  · exact Invocation.keepsFinite.wrap hheld h fun _ => rfl
  · cases h

lemma NumberSetting.keepsFinite : KeepsFinite ofJson? numbers := by
  intro j hj s h
  simp only [ofJson?, bind, Option.bind_eq_some_iff] at h
  obtain ⟨⟨kind, content⟩, htagged, h⟩ := h
  split at h
  · split at h <;> cases h
    exact nofun
  · obtain ⟨held, rfl, h⟩ := Option.bind_eq_some_iff.1 h
    have hheld := finite_of_tagged? hj htagged
    split at h
    · exact keepsFinite_float?.wrap hheld h fun _ => rfl
    · exact keepsFinite_nil.wrap hheld h fun _ => rfl
    · exact Invocation.keepsFinite.wrap hheld h fun _ => rfl
    · exact keepsFinite_nil.wrap hheld h fun _ => rfl
    · exact keepsFinite_nil.wrap hheld h fun _ => rfl
    · cases h

lemma TextSetting.keepsFinite : KeepsFinite ofJson? numbers := by
  intro j hj s h
  simp only [ofJson?, bind, Option.bind_eq_some_iff] at h
  obtain ⟨⟨kind, content⟩, htagged, h⟩ := h
  split at h
  · split at h <;> cases h
    exact nofun
  · obtain ⟨held, rfl, h⟩ := Option.bind_eq_some_iff.1 h
    have hheld := finite_of_tagged? hj htagged
    split at h
    · exact keepsFinite_nil.wrap hheld h fun _ => rfl
    · exact keepsFinite_nil.wrap hheld h fun _ => rfl
    · exact Invocation.keepsFinite.wrap hheld h fun _ => rfl
    · exact keepsFinite_nil.wrap hheld h fun _ => rfl
    · cases h

lemma DiceSetting.keepsFinite : KeepsFinite ofJson? numbers := by
  intro j hj s h
  simp only [ofJson?, bind, Option.bind_eq_some_iff] at h
  obtain ⟨⟨kind, content⟩, htagged, h⟩ := h
  split at h
  · obtain ⟨held, rfl, h⟩ := Option.bind_eq_some_iff.1 h
    exact Dice.Roll.keepsFinite.wrap (finite_of_tagged? hj htagged) h fun _ => rfl
  · cases h

lemma Setting.keepsFinite : KeepsFinite ofJson? numbers := by
  intro j hj s h
  simp only [ofJson?, bind, Option.bind_eq_some_iff] at h
  obtain ⟨field, hfield, h⟩ := h
  have hheld := finite_of_onlyField? hj hfield
  split at h
  · exact BooleanSetting.keepsFinite.wrap hheld h fun _ => rfl
  · exact NumberSetting.keepsFinite.wrap hheld h fun _ => rfl
  · exact TextSetting.keepsFinite.wrap hheld h fun _ => rfl
  · exact DiceSetting.keepsFinite.wrap hheld h fun _ => rfl
  · cases h

lemma Assignment.keepsFinite : KeepsFinite ofJson? numbers := by
  intro j hj a h
  simp only [ofJson?, bind, Option.bind_eq_some_iff] at h
  obtain ⟨fields, hfields, setting, hsetting, description, _, h⟩ := h
  cases h
  exact NumberSetting.keepsFinite.required? (finite_of_fields? hj hfields) hsetting

lemma keepsFinite_history :
    KeepsFinite historyOfJson? (·.flatMap Assignment.numbers) := by
  intro j hj history h
  simp only [historyOfJson?, bind, Option.bind_eq_some_iff] at h
  obtain ⟨fields, hfields, h⟩ := h
  exact Assignment.keepsFinite.listOf?.required? (finite_of_fields? hj hfields) h

lemma Variable.keepsFinite : KeepsFinite ofJson? numbers := by
  intro j hj v h
  simp only [ofJson?, bind, Option.bind_eq_some_iff] at h
  obtain ⟨fields, hfields, id, _, label, _, description, _, tags, _, setting, hsetting, history,
    hhistory, h⟩ := h
  have hf := finite_of_fields? hj hfields
  rw [withHistory?] at h
  split at h <;> cases h
  rw [numbers, List.forall_mem_append]
  exact ⟨Setting.keepsFinite.required? hf hsetting,
    keepsFinite_history.defaulted? hf (by simp) hhistory⟩

lemma Payload.keepsFinite : KeepsFinite ofJson? numbers := by
  intro j hj p h
  simp only [ofJson?, bind, Option.bind_eq_some_iff] at h
  obtain ⟨field, hfield, h⟩ := h
  have hheld := finite_of_onlyField? hj hfield
  split at h
  · exact keepsFinite_float?.wrap hheld h fun _ => rfl
  · exact keepsFinite_nil.wrap hheld h fun _ => rfl
  · cases h

lemma Entry.keepsFinite : KeepsFinite ofJson? numbers := by
  intro j hj e h
  simp only [ofJson?, bind, Option.bind_eq_some_iff] at h
  obtain ⟨fields, hfields, id, _, valueSet, _, description, _, citation, _, gains, hgains, payload,
    hpayload, h⟩ := h
  cases h
  have hf := finite_of_fields? hj hfields
  rw [numbers, List.forall_mem_append]
  exact ⟨Variable.keepsFinite.listOf?.defaulted? hf (by simp) hgains,
    Payload.keepsFinite.required? hf hpayload⟩

lemma Members.keepsFinite : KeepsFinite ofJson? numbers := by
  intro j hj m h
  simp only [ofJson?, bind, Option.bind_eq_some_iff] at h
  obtain ⟨field, hfield, h⟩ := h
  have hheld := finite_of_onlyField? hj hfield
  split at h
  · exact Entry.keepsFinite.listOf?.wrap hheld h fun _ => rfl
  · exact keepsFinite_nil.wrap hheld h fun _ => rfl
  · cases h

namespace ValueSet

lemma finite_addEntry {s : ValueSet} (hs : ∀ x ∈ s.numbers, x.isFinite = true) {e : Entry}
    (he : ∀ x ∈ e.numbers, x.isFinite = true) :
    ∀ x ∈ (s.addEntry e).numbers, x.isFinite = true := by
  cases hm : s.members with
  | base entries =>
    rw [addEntry_of_base hm]
    split
    · exact hs
    · have hall : (Members.base (entries ++ [{ e with valueSet := s.id }])).numbers =
          s.numbers ++ e.numbers := by
        simp [numbers, Members.numbers, hm, Members.entries, Entry.numbers]
      rw [numbers, hall, List.forall_mem_append]
      exact ⟨hs, he⟩
  | compound sets => rwa [addEntry, hm]

lemma finite_addMember {s : ValueSet} (hs : ∀ x ∈ s.numbers, x.isFinite = true) (id : ValueSetId) :
    ∀ x ∈ (s.addMember id).numbers, x.isFinite = true := by
  cases hm : s.members with
  | base entries => rwa [addMember, hm]
  | compound sets =>
    rw [addMember_of_compound hm]
    split
    · exact hs
    · exact List.forall_mem_nil _

lemma numbers_empty (s : ValueSet) : s.empty.numbers = [] := by
  rw [empty]
  split <;> rfl

lemma keepsFinite : KeepsFinite ofJson? numbers := by
  intro j hj s h
  simp only [ofJson?, bind, Option.bind_eq_some_iff] at h
  obtain ⟨fields, hfields, members, hmembers, _, _, _, _, _, _, _, _, _, _, h⟩ := h
  cases h
  have hm := Members.keepsFinite.required? (finite_of_fields? hj hfields) hmembers
  refine addMembers_induction (motive := fun s => ∀ x ∈ s.numbers, x.isFinite = true) ?_
    (fun s hs e he => ?_) fun s hs id => finite_addMember hs id
  · rw [numbers_empty]
    exact List.forall_mem_nil _
  · exact finite_addEntry hs fun x hx => hm x (List.mem_flatMap.2 ⟨e, he, hx⟩)

end ValueSet

lemma NamedTerm.keepsFinite : KeepsFinite ofJson? numbers := by
  intro j hj t h
  simp only [ofJson?, bind, Option.bind_eq_some_iff] at h
  obtain ⟨⟨kind, rest⟩, hlabelled, h⟩ := h
  have hrest := finite_of_labelled? hj hlabelled
  split at h
  · simp only [Option.bind_eq_some_iff] at h
    obtain ⟨fields, hfields, name, _, r, hr, h⟩ := h
    cases h
    exact NumberRef.keepsFinite.required? (finite_of_fields? hrest hfields) hr
  · simp only [Option.bind_eq_some_iff] at h
    obtain ⟨fields, hfields, name, _, r, hr, h⟩ := h
    cases h
    exact DiceRef.keepsFinite.required? (finite_of_fields? hrest hfields) hr
  · simp only [Option.bind_eq_some_iff] at h
    obtain ⟨fields, hfields, name, _, c, _, t, ht, f, hf, h⟩ := h
    cases h
    have hall := finite_of_fields? hrest hfields
    exact List.forall_mem_append.2 ⟨NumberRef.keepsFinite.required? hall ht,
      NumberRef.keepsFinite.required? hall hf⟩
  · cases h

lemma Summation.keepsFinite : KeepsFinite ofJson? numbers := by
  intro j hj s h
  simp only [ofJson?, bind, Option.bind_eq_some_iff] at h
  obtain ⟨fields, hfields, id, _, name, _, terms, hterms, h⟩ := h
  cases h
  intro x hx
  obtain ⟨t, ht, hx⟩ := List.mem_flatMap.1 hx
  rw [terms_foldl] at ht
  have hmem : t ∈ terms := (Sorted.mem_of_mem_foldl_insert ht).resolve_left Sorted.not_mem_empty
  exact NamedTerm.keepsFinite.listOf?.defaulted? (finite_of_fields? hj hfields) (by simp) hterms x
    (List.mem_flatMap.2 ⟨t, hmem, hx⟩)

lemma Value.keepsFinite : KeepsFinite ofJson? numbers := by
  intro j hj v h
  simp only [ofJson?, bind, Option.bind_eq_some_iff] at h
  obtain ⟨⟨name, _⟩, htagged, held, rfl, type, _, h⟩ := h
  have hheld := finite_of_tagged? hj htagged
  cases type with
  | number => exact keepsFinite_float?.wrap hheld h fun _ => rfl
  | text => exact keepsFinite_nil.wrap hheld h fun _ => rfl
  | boolean => exact keepsFinite_nil.wrap hheld h fun _ => rfl
  | diceRoll => exact Dice.Roll.keepsFinite.wrap hheld h fun _ => rfl
  | listText => exact keepsFinite_nil.wrap hheld h fun _ => rfl

lemma Row.keepsFinite : KeepsFinite ofJson? numbers := by
  intro j hj r h
  simp only [ofJson?, bind, Option.bind_eq_some_iff] at h
  obtain ⟨fields, hfields, parameters, hparameters, result, hresult, h⟩ := h
  cases h
  have hf := finite_of_fields? hj hfields
  rw [numbers, List.forall_mem_append]
  exact ⟨Value.keepsFinite.listOf?.required? hf hparameters,
    Value.keepsFinite.required? hf hresult⟩

lemma Table.keepsFinite : KeepsFinite ofJson? numbers := by
  intro j hj f h
  simp only [ofJson?, bind, Option.bind_eq_some_iff] at h
  obtain ⟨fields, hfields, _, _, _, _, _, _, _, _, rows, hrows, h⟩ := h
  cases h
  exact Row.keepsFinite.listOf?.required? (finite_of_fields? hj hfields) hrows

lemma Parameter.keepsFinite : KeepsFinite ofJson? numbers := by
  intro j hj p h
  simp only [ofJson?, bind, Option.bind_eq_some_iff] at h
  obtain ⟨field, hfield, h⟩ := h
  have hheld := finite_of_onlyField? hj hfield
  split at h
  · exact keepsFinite_nil.wrap hheld h fun _ => rfl
  · exact keepsFinite_nil.wrap hheld h fun _ => rfl
  · exact DataRef.keepsFinite.wrap hheld h fun _ => rfl
  · cases h

lemma Statement.keepsFinite : KeepsFinite ofJson? numbers := by
  intro j hj s h
  simp only [ofJson?, bind, Option.bind_eq_some_iff] at h
  obtain ⟨fields, hfields, _, _, _, _, parameters, hparameters, h⟩ := h
  cases h
  exact Parameter.keepsFinite.listOf?.required? (finite_of_fields? hj hfields) hparameters

lemma Program.keepsFinite : KeepsFinite ofJson? numbers := by
  intro j hj p h
  simp only [ofJson?, bind, Option.bind_eq_some_iff] at h
  obtain ⟨fields, hfields, _, _, _, _, _, _, _, _, statements, hstatements, _, _, h⟩ := h
  cases h
  exact Statement.keepsFinite.listOf?.required? (finite_of_fields? hj hfields) hstatements

lemma Mechanic.keepsFinite : KeepsFinite ofJson? numbers := by
  intro j hj m h
  simp only [ofJson?, bind, Option.bind_eq_some_iff] at h
  obtain ⟨fields, hfields, _, _, _, _, _, _, _, _, _, _, _, _, gains, hgains, h⟩ := h
  cases h
  exact Variable.keepsFinite.listOf?.defaulted? (finite_of_fields? hj hfields) (by simp) hgains

end Tabletop
