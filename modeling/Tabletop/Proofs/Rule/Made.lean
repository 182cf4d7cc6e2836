import Mathlib.Data.List.Nodup
import Tabletop.Document.Rule
import Tabletop.Proofs.Document.Validation
import Tabletop.Proofs.Json.Fields
import Tabletop.Proofs.Variable.Made
import Tabletop.Stored.Rule

namespace Tabletop

open Document (Node)

namespace Variable

variable {vs : List Variable}

lemma lawful_of_listAt {n : Node} {key : String} (h : n.listAt decode key = .ok vs) :
    ∀ v ∈ vs, v.Lawful := by
  intro v hv
  obtain ⟨m, hm⟩ := Node.exists_of_mem_listAt h hv
  exact lawful_of_decode hm

lemma lawful_of_defaulted? {fields : List (String × Json)} {key : String}
    (h : Json.defaulted? fields key (Json.listOf? ofJson?) [] = some vs) : ∀ v ∈ vs, v.Lawful := by
  intro v hv
  obtain ⟨j, hj⟩ := Json.exists_of_mem_defaulted? h hv
  exact lawful_of_ofJson? hj

end Variable

namespace Entry

lemma lawful_of_decode {n : Node} {e : Entry} (h : decode n = .ok e) :
    ∀ v ∈ e.gains, v.Lawful := by
  simp only [decode, bind_eq_ok] at h
  obtain ⟨_, _, _, _, _, _, _, _, _, _, gains, hgains, h⟩ := h
  cases h
  exact Variable.lawful_of_listAt hgains

lemma lawful_of_ofJson? {j : Json} {e : Entry} (h : ofJson? j = some e) :
    ∀ v ∈ e.gains, v.Lawful := by
  simp only [ofJson?, bind, Option.bind_eq_some_iff] at h
  obtain ⟨_, _, _, _, _, _, _, _, _, _, gains, hgains, _, _, h⟩ := h
  cases h
  exact Variable.lawful_of_defaulted? hgains

end Entry

namespace Members

inductive Lawful (owner : ValueSetId) : Members → Prop
  | base {entries : List Entry} : (entries.map Entry.id).Nodup →
      (∀ e ∈ entries, e.valueSet = owner) → (∀ e ∈ entries, ∀ v ∈ e.gains, v.Lawful) →
      Lawful owner (.base entries)
  | compound {sets : List ValueSetId} : sets.Nodup → Lawful owner (.compound sets)

def entries : Members → List Entry
  | base entries => entries
  | compound _ => []

lemma lawful_of_decode {n : Node} {m : Members} (h : decode n = .ok m) :
    ∀ e ∈ m.entries, ∀ v ∈ e.gains, v.Lawful := by
  rw [decode, bind_eq_ok] at h
  obtain ⟨_, _, h⟩ := h
  split at h
  · obtain ⟨entries, hentries, h⟩ := bind_eq_ok.1 h
    cases h
    intro e he
    obtain ⟨m, hm⟩ := Node.exists_of_mem_listAt hentries he
    exact Entry.lawful_of_decode hm
  · obtain ⟨_, _, h⟩ := bind_eq_ok.1 h
    cases h
    exact nofun
  · cases h

lemma lawful_of_ofJson? {j : Json} {m : Members} (h : ofJson? j = some m) :
    ∀ e ∈ m.entries, ∀ v ∈ e.gains, v.Lawful := by
  simp only [ofJson?, bind, Option.bind_eq_some_iff] at h
  obtain ⟨_, _, h⟩ := h
  split at h
  · obtain ⟨entries, hentries, h⟩ := Option.bind_eq_some_iff.1 h
    cases h
    intro e he
    obtain ⟨_, _, i, _, hi⟩ := Json.exists_of_mem_listOf? hentries he
    exact Entry.lawful_of_ofJson? hi
  · obtain ⟨_, _, h⟩ := Option.bind_eq_some_iff.1 h
    cases h
    exact nofun
  · cases h

end Members

namespace ValueSet

/-- Every way to come by a value set. -/
inductive Made : ValueSet → Prop
  | base (id : ValueSetId) (label : String) : Made { id, label, members := .base [] }
  | compound (id : ValueSetId) (label : String) : Made { id, label, members := .compound [] }
  | describe {s : ValueSet} (label labelSingular description : String)
      (valueType : Option ValueType) :
      Made s → Made { s with label, labelSingular, description, valueType }
  | addEntry {s : ValueSet} {e : Entry} : Made s → (∀ v ∈ e.gains, v.Made) → Made (s.addEntry e)
  | addMember {s : ValueSet} (id : ValueSetId) : Made s → Made (s.addMember id)
  | decode {n : Node} {s : ValueSet} : ValueSet.decode n = .ok s → Made s
  | load {j : Json} {s : ValueSet} : ValueSet.ofJson? j = some s → Made s

def Lawful (s : ValueSet) : Prop := s.members.Lawful s.id

lemma addEntry_of_base {s : ValueSet} {entries : List Entry} (hs : s.members = .base entries)
    (e : Entry) :
    s.addEntry e = if e.id ∈ entries.map Entry.id then s
      else { s with members := .base (entries ++ [{ e with valueSet := s.id }]) } := by
  have hany : entries.any (·.id = e.id) ↔ e.id ∈ entries.map Entry.id := by simp
  simp only [addEntry, hs, hany]

lemma addMember_of_compound {s : ValueSet} {sets : List ValueSetId}
    (hs : s.members = .compound sets) (id : ValueSetId) :
    s.addMember id = if id ∈ sets then s else { s with members := .compound (sets ++ [id]) } := by
  simp only [addMember, hs]

lemma Lawful.addEntry {s : ValueSet} (h : s.Lawful) {e : Entry} (he : ∀ v ∈ e.gains, v.Lawful) :
    (s.addEntry e).Lawful := by
  cases hs : s.members with
  | base entries =>
    rw [Lawful, hs] at h
    rw [addEntry_of_base hs]
    split
    · rwa [Lawful, hs]
    · rename_i hnew
      cases h with
      | base hnodup howner hgains =>
        refine .base ?_ ?_ ?_
        · rw [List.map_append, List.map_singleton, ← List.concat_eq_append]
          exact hnodup.concat hnew
        · simpa [or_imp, forall_and] using howner
        · simpa [or_imp, forall_and] using ⟨hgains, he⟩
  | compound sets => rwa [ValueSet.addEntry, hs]

lemma Lawful.addMember {s : ValueSet} (h : s.Lawful) (id : ValueSetId) :
    (s.addMember id).Lawful := by
  cases hs : s.members with
  | base entries => rwa [ValueSet.addMember, hs]
  | compound sets =>
    rw [Lawful, hs] at h
    rw [addMember_of_compound hs]
    split
    · rwa [Lawful, hs]
    · rename_i hnew
      cases h with
      | compound hnodup =>
        refine .compound ?_
        rw [← List.concat_eq_append]
        exact hnodup.concat hnew

lemma addMembers_induction {motive : ValueSet → Prop} {s : ValueSet} {m : Members}
    (hs : motive s) (hentry : ∀ s, motive s → ∀ e ∈ m.entries, motive (s.addEntry e))
    (hmember : ∀ s, motive s → ∀ id, motive (s.addMember id)) : motive (s.addMembers m) := by
  cases m with
  | base entries =>
    change motive (entries.foldl addEntry s)
    induction entries generalizing s with
    | nil => exact hs
    | cons e entries ih =>
      exact ih (hentry s hs e (by simp [Members.entries])) fun s hs f hf =>
        hentry s hs f (List.mem_cons_of_mem e hf)
  | compound sets =>
    change motive (sets.foldl addMember s)
    induction sets generalizing s with
    | nil => exact hs
    | cons id sets ih => exact ih (hmember s hs id) hentry

lemma Lawful.addMembers {s : ValueSet} (h : s.Lawful) {m : Members}
    (hm : ∀ e ∈ m.entries, ∀ v ∈ e.gains, v.Lawful) : (s.addMembers m).Lawful :=
  addMembers_induction h (fun _ hs e he => hs.addEntry (hm e he)) fun _ hs id => hs.addMember id

lemma lawful_empty (s : ValueSet) : s.empty.Lawful := by
  rw [empty]
  split
  · exact .compound .nil
  · exact .base .nil nofun nofun

lemma lawful_of_decode {n : Node} {s : ValueSet} (h : decode n = .ok s) : s.Lawful := by
  simp only [decode, bind_eq_ok] at h
  obtain ⟨_, _, _, _, members, hmembers, _, _, _, _, _, _, h⟩ := h
  cases h
  exact (lawful_empty _).addMembers (Members.lawful_of_decode hmembers)

lemma lawful_of_ofJson? {j : Json} {s : ValueSet} (h : ofJson? j = some s) : s.Lawful := by
  simp only [ofJson?, bind, Option.bind_eq_some_iff] at h
  obtain ⟨fields, _, members, hmembers, _, _, _, _, _, _, _, _, _, _, h⟩ := h
  cases h
  obtain ⟨j, _, hj⟩ := Option.bind_eq_some_iff.1 hmembers
  exact (lawful_empty _).addMembers (Members.lawful_of_ofJson? hj)

lemma Made.lawful {s : ValueSet} (h : s.Made) : s.Lawful := by
  induction h with
  | base id label => exact .base .nil nofun nofun
  | compound id label => exact .compound .nil
  | describe label labelSingular description valueType _ ih => exact ih
  | addEntry _ hgains ih => exact ih.addEntry fun v hv => (hgains v hv).lawful
  | addMember id _ ih => exact ih.addMember id
  | decode h => exact lawful_of_decode h
  | load h => exact lawful_of_ofJson? h

lemma foldl_addEntry {s : ValueSet} {entries new : List Entry} (hs : s.members = .base entries)
    (hnodup : ((entries ++ new).map Entry.id).Nodup) (howner : ∀ e ∈ new, e.valueSet = s.id) :
    new.foldl addEntry s = { s with members := .base (entries ++ new) } := by
  induction new generalizing s entries with
  | nil =>
    rw [List.append_nil, ← hs]
    rfl
  | cons e new ih =>
    have hnew : e.id ∉ entries.map Entry.id := by
      intro hmem
      rw [List.map_append, List.nodup_append] at hnodup
      exact hnodup.2.2 e.id hmem e.id (by simp) rfl
    have hadd : s.addEntry e = { s with members := .base (entries ++ [e]) } := by
      rw [addEntry_of_base hs, if_neg hnew, ← howner e (by simp)]
    rw [List.append_cons entries e new] at hnodup ⊢
    rw [List.foldl_cons, hadd]
    exact ih rfl hnodup fun f hf => howner f (by simp [hf])

lemma foldl_addMember {s : ValueSet} {sets new : List ValueSetId} (hs : s.members = .compound sets)
    (hnodup : (sets ++ new).Nodup) :
    new.foldl addMember s = { s with members := .compound (sets ++ new) } := by
  induction new generalizing s sets with
  | nil =>
    rw [List.append_nil, ← hs]
    rfl
  | cons id new ih =>
    have hnew : id ∉ sets := fun hmem => (List.nodup_append.1 hnodup).2.2 id hmem id (by simp) rfl
    have hadd : s.addMember id = { s with members := .compound (sets ++ [id]) } := by
      rw [addMember_of_compound hs, if_neg hnew]
    rw [List.append_cons sets id new] at hnodup ⊢
    rw [List.foldl_cons, hadd]
    exact ih rfl hnodup

lemma Lawful.addMembers_empty {s : ValueSet} (h : s.Lawful) : s.empty.addMembers s.members = s := by
  obtain ⟨id, label, labelSingular, description, valueType, members⟩ := s
  cases h with
  | @base entries hnodup howner _ =>
    have hall : (([] ++ entries).map Entry.id).Nodup := hnodup
    exact foldl_addEntry rfl hall howner
  | @compound sets hnodup =>
    have hall : ([] ++ sets).Nodup := hnodup
    exact foldl_addMember rfl hall

end ValueSet

namespace Mechanic

/-- Every way to come by a mechanic. -/
inductive Made : Mechanic → Prop
  | new (id : MechanicId) (label : String) : Made { id, label }
  | describe {m : Mechanic} (id : MechanicId) (label description summary : String)
      (category : Option String) :
      Made m → Made { m with id, label, description, summary, category }
  | require {m : Mechanic} (id : VariableId) :
      Made m → Made { m with requirements := m.requirements ++ [id] }
  | gain {m : Mechanic} {v : Variable} : Made m → v.Made → Made { m with gains := m.gains ++ [v] }
  | decode {n : Node} {m : Mechanic} : Mechanic.decode n = .ok m → Made m
  | load {j : Json} {m : Mechanic} : Mechanic.ofJson? j = some m → Made m

lemma lawful_of_decode {n : Node} {m : Mechanic} (h : decode n = .ok m) :
    ∀ v ∈ m.gains, v.Lawful := by
  simp only [decode, bind_eq_ok] at h
  obtain ⟨_, _, _, _, _, _, _, _, _, _, _, _, gains, hgains, h⟩ := h
  cases h
  exact Variable.lawful_of_listAt hgains

lemma lawful_of_ofJson? {j : Json} {m : Mechanic} (h : ofJson? j = some m) :
    ∀ v ∈ m.gains, v.Lawful := by
  simp only [ofJson?, bind, Option.bind_eq_some_iff] at h
  obtain ⟨_, _, _, _, _, _, _, _, _, _, _, _, _, _, gains, hgains, h⟩ := h
  cases h
  exact Variable.lawful_of_defaulted? hgains

lemma Made.lawful {m : Mechanic} (h : m.Made) : ∀ v ∈ m.gains, v.Lawful := by
  induction h with
  | new id label => exact nofun
  | describe id label description summary category _ ih => exact ih
  | require id _ ih => exact ih
  | gain _ hv ih =>
    rw [List.forall_mem_append]
    exact ⟨ih, by simpa using hv.lawful⟩
  | decode h => exact lawful_of_decode h
  | load h => exact lawful_of_ofJson? h

end Mechanic

end Tabletop
