import Tabletop.Proofs.Rule.Flattening
import Tabletop.Proofs.Rule.Made
import Tabletop.Proofs.Sorted

namespace Tabletop

open Document (Node)
open Relation (ReflTransGen)

variable {e : Entry} {given : List Entry}

namespace Entry

def ownedBy (owner : ValueSetId) (e : Entry) : Entry := { e with valueSet := owner }

lemma firsts_concat (es : List Entry) (e : Entry) : firsts (es ++ [e]) = keep (firsts es) e := by
  simp [firsts_eq_foldl]

end Entry

namespace ValueSet

def listed (n : Node) : List Entry :=
  match Members.decode n with
  | .ok m => m.entries
  | .error _ => []

def stored (j : Json) : List Entry :=
  let fields := j.fields? ["id", "label", "label_singular", "description", "value_type", "members"]
  match fields.bind (Json.required? · "members" Members.ofJson?) with
  | some m => m.entries
  | none => []

/-- Every way to fill a value set, with the entries that it has been given in turn. -/
inductive Filled : ValueSet → List Entry → Prop
  | base (id : ValueSetId) (label : String) : Filled { id, label, members := .base [] } []
  | compound (id : ValueSetId) (label : String) : Filled { id, label, members := .compound [] } []
  | describe {s : ValueSet} {given : List Entry} (label labelSingular description : String)
      (valueType : Option ValueType) :
      Filled s given → Filled { s with label, labelSingular, description, valueType } given
  | addEntry {s : ValueSet} {given : List Entry} (e : Entry) :
      Filled s given → Filled (s.addEntry e) (given ++ [e])
  | addMember {s : ValueSet} {given : List Entry} (id : ValueSetId) :
      Filled s given → Filled (s.addMember id) given
  | decode {n : Node} {s : ValueSet} : ValueSet.decode n = .ok s → Filled s (listed n)
  | load {j : Json} {s : ValueSet} : ValueSet.ofJson? j = some s → Filled s (stored j)

/-- A base set holds what it has been given, as its own, the first of each id. -/
def Holding (s : ValueSet) (given : List Entry) : Prop :=
  ∀ entries, s.members = .base entries → entries = (Entry.firsts given).map (Entry.ownedBy s.id)

variable {s : ValueSet}

lemma id_addEntry (s : ValueSet) (e : Entry) : (s.addEntry e).id = s.id := by
  rw [addEntry]
  split
  · split <;> rfl
  · rfl

lemma Holding.addEntry (h : s.Holding given) (e : Entry) :
    (s.addEntry e).Holding (given ++ [e]) := by
  intro entries hentries
  rw [id_addEntry]
  cases hs : s.members with
  | base old =>
    have hold : old = (Entry.firsts given).map (Entry.ownedBy s.id) := h old hs
    have hids : old.map Entry.id = (Entry.firsts given).map Entry.id := by
      rw [hold, List.map_map]
      rfl
    rw [addEntry_of_base hs, hids] at hentries
    rw [Entry.firsts_concat]
    split at hentries
    · rename_i hmem
      rw [Entry.keep_of_mem hmem, ← hold]
      exact Members.base.inj (hentries.symm.trans hs)
    · rename_i hnew
      cases hentries
      rw [Entry.keep_of_not_mem hnew, List.map_append, ← hold]
      rfl
  | compound sets =>
    rw [ValueSet.addEntry, hs] at hentries
    cases hs.symm.trans hentries

lemma Holding.addMember (h : s.Holding given) (id : ValueSetId) :
    (s.addMember id).Holding given := by
  cases hs : s.members with
  | base entries => rwa [ValueSet.addMember, hs]
  | compound sets =>
    intro entries hentries
    rw [addMember_of_compound hs] at hentries
    split at hentries
    · cases hs.symm.trans hentries
    · cases hentries

lemma Holding.addMembers (h : s.Holding []) (m : Members) : (s.addMembers m).Holding m.entries := by
  cases m with
  | base entries =>
    have hfold (es : List Entry) {s : ValueSet} {given : List Entry} (h : s.Holding given) :
        (es.foldl ValueSet.addEntry s).Holding (given ++ es) := by
      induction es generalizing s given with
      | nil => simpa using h
      | cons e es ih => simpa using ih (h.addEntry e)
    exact hfold entries h
  | compound sets =>
    change (sets.foldl ValueSet.addMember s).Holding []
    induction sets generalizing s with
    | nil => exact h
    | cons id sets ih => exact ih (h.addMember id)

lemma holding_empty (s : ValueSet) : s.empty.Holding [] := by
  intro entries hentries
  simp only [empty] at hentries
  split at hentries <;> cases hentries
  rfl

lemma holding_of_decode {n : Node} (h : decode n = .ok s) : s.Holding (listed n) := by
  simp only [decode, bind_eq_ok] at h
  obtain ⟨_, _, _, _, members, hmembers, _, _, _, _, _, _, h⟩ := h
  cases h
  rw [listed, hmembers]
  exact (holding_empty _).addMembers members

lemma holding_of_ofJson? {j : Json} (h : ofJson? j = some s) : s.Holding (stored j) := by
  simp only [ofJson?, bind, Option.bind_eq_some_iff] at h
  obtain ⟨fields, hfields, members, hmembers, _, _, _, _, _, _, _, _, _, _, h⟩ := h
  cases h
  have hstored : stored j = members.entries := by
    simp only [stored, hfields, Option.bind_some, hmembers]
  rw [hstored]
  exact (holding_empty _).addMembers members

lemma Filled.holding (h : s.Filled given) : s.Holding given := by
  induction h with
  | base id label =>
    intro entries hentries
    cases hentries
    rfl
  | compound id label => exact nofun
  | describe label labelSingular description valueType _ ih => exact ih
  | addEntry e _ ih => exact ih.addEntry e
  | addMember id _ ih => exact ih.addMember id
  | decode h => exact holding_of_decode h
  | load h => exact holding_of_ofJson? h

structure Owns (s : ValueSet) (entries : List Entry) : Prop where
  owner : ∀ e ∈ entries, e.valueSet = s.id
  nodup : (entries.map Entry.id).Nodup

lemma Holding.owns (h : s.Holding given) {entries : List Entry} (hs : s.members = .base entries) :
    s.Owns entries := by
  rw [h entries hs]
  refine ⟨?_, ?_⟩
  · intro e he
    obtain ⟨f, _, rfl⟩ := List.mem_map.1 he
    rfl
  · rw [List.map_map]
    exact Entry.nodup_firsts given

lemma Holding.find? (h : s.Holding given) {entries : List Entry} (hs : s.members = .base entries)
    (id : EntryId) :
    entries.find? (·.id = id) = (given.find? (·.id = id)).map (Entry.ownedBy s.id) := by
  rw [h entries hs, List.find?_map, ← Entry.find?_firsts]
  rfl

end ValueSet

namespace ValueSets

variable {sets : ValueSets} {limit : UInt64} {id : ValueSetId} {r : EntryRef}

lemma entries_of_base (limit : UInt64) {s : ValueSet} {entries : List Entry}
    (hs : sets.get? id = some s) (hm : s.members = .base entries) :
    sets.entries limit id = .ok (Entry.firsts entries) := by
  rw [ValueSets.entries, collect, dif_neg List.not_mem_nil]
  split
  · cases hs.symm.trans ‹_›
  · cases hs.symm.trans ‹_›
    simp only [hm, Entry.firsts_eq_foldl]
    rfl

lemma lookup_eq_ok (h : sets.lookup limit r = .ok e) :
    ∃ x s entries, ReflTransGen sets.Holds r.valueSet x ∧ sets.get? x = some s ∧
      s.members = .base entries ∧ e ∈ entries := by
  rw [lookup, bind_eq_ok] at h
  obtain ⟨found, hfound, h⟩ := h
  split at h
  · rename_i f hf
    cases h
    obtain ⟨leaves, hleaves, rfl⟩ := leaves_of_entries hfound
    rw [Entry.find?_firsts] at hf
    simpa using hleaves.mem_iff.1 (List.mem_of_find?_eq_some hf)
  · cases h

lemma lookup_of_base (limit : UInt64) {s : ValueSet} {entries : List Entry}
    (hs : sets.get? r.valueSet = some s) (hm : s.members = .base entries)
    (hfind : entries.find? (·.id = r.entry) = some e) : sets.lookup limit r = .ok e := by
  have hfound : (Entry.firsts entries).find? (·.id = r.entry) = some e := by
    rw [Entry.find?_firsts, hfind]
  rw [lookup, entries_of_base limit hs hm, bind_eq_ok]
  refine ⟨_, rfl, ?_⟩
  rw [hfound]
  rfl

end ValueSets

/-- The entries of a set name it as their owner, no two of them have one id, and of those that it
has been given under an id the first is kept. In a registry of such sets, what a reference is
resolved to belongs to a registered base set inside the one that was named, and its own reference
resolves to it under any limit. -/
theorem entries_know_owner :
    (∀ s given entries, ValueSet.Filled s given → s.members = .base entries →
      (∀ e ∈ entries, e.valueSet = s.id) ∧ (entries.map Entry.id).Nodup ∧
        ∀ id, entries.find? (·.id = id) = (given.find? (·.id = id)).map (Entry.ownedBy s.id)) ∧
    ∀ inserted : List ValueSet, (∀ s ∈ inserted, ∃ given, s.Filled given) →
      let sets : ValueSets := inserted.foldl Sorted.replace ∅
      ∀ limit r e, sets.lookup limit r = .ok e →
        (∃ s entries, sets.get? e.valueSet = some s ∧ s.members = .base entries ∧ e ∈ entries) ∧
          ReflTransGen sets.Holds r.valueSet e.valueSet ∧
          ∀ limit', sets.lookup limit' e.ref = .ok e := by
  constructor
  · intro s given entries hs hm
    exact ⟨(hs.holding.owns hm).owner, (hs.holding.owns hm).nodup, hs.holding.find? hm⟩
  · intro inserted hinserted sets limit r e h
    obtain ⟨x, s, entries, hx, hs, hm, he⟩ := ValueSets.lookup_eq_ok h
    have hmem : s ∈ inserted := by
      have hsets : s ∈ sets := List.mem_of_find?_eq_some hs
      exact (Sorted.mem_of_mem_foldl_replace hsets).resolve_left Sorted.not_mem_empty
    obtain ⟨given, hgiven⟩ := hinserted s hmem
    have howns : s.Owns entries := hgiven.holding.owns hm
    have hid : s.id = x := by simpa using List.find?_some hs
    obtain rfl : e.valueSet = x := (howns.owner e he).trans hid
    exact ⟨⟨s, entries, hs, hm, he⟩, hx, fun limit' =>
      ValueSets.lookup_of_base limit' hs hm ((find?_eq_some_iff howns.nodup).2 ⟨he, rfl⟩)⟩

namespace Ownership

def dagger : Entry := { id := "dagger", valueSet := "", payload := .number 4 }

def toy : Entry := { dagger with payload := .number 1 }

def bare : ValueSet := { id := "knives", label := "Bare", members := .base [] }

def knives : ValueSet := (bare.addEntry dagger).addEntry toy

def arms : ValueSet :=
  ({ id := "arms", label := "Arms", members := .compound [] } : ValueSet).addMember "knives"

lemma knives_filled : knives.Filled [dagger, toy] :=
  .addEntry toy (.addEntry dagger (.base "knives" "Bare"))

lemma knives_members : knives.members = .base [dagger.ownedBy "knives"] := by decide

def sets : ValueSets := [bare, arms, knives].foldl Sorted.replace ∅

lemma lookup_dagger : sets.lookup 1 ⟨"arms", "dagger"⟩ = .ok (dagger.ownedBy "knives") := by cbv

lemma sets_filled : ∀ s ∈ [bare, arms, knives], ∃ given, s.Filled given := by
  simp only [List.forall_mem_cons, List.not_mem_nil, IsEmpty.forall_iff, implies_true, and_true]
  exact ⟨⟨_, .base "knives" "Bare"⟩, ⟨_, .addMember "knives" (.compound "arms" "Arms")⟩,
    ⟨_, knives_filled⟩⟩

end Ownership

open Ownership in
theorem entries_know_owner_knives :
    knives.Filled [dagger, toy] ∧ knives.members = .base [dagger.ownedBy "knives"] ∧
      [dagger.ownedBy "knives"].find? (·.id = "dagger") =
        ([dagger, toy].find? (·.id = "dagger")).map (Entry.ownedBy knives.id) ∧
      (∀ s ∈ [bare, arms, knives], ∃ given, s.Filled given) ∧
      sets.lookup 1 ⟨"arms", "dagger"⟩ = .ok (dagger.ownedBy "knives") ∧
      ReflTransGen sets.Holds "arms" "knives" ∧
      ∀ limit, sets.lookup limit ⟨"knives", "dagger"⟩ = .ok (dagger.ownedBy "knives") :=
  have hfound := entries_know_owner.2 _ sets_filled 1 _ _ lookup_dagger
  ⟨knives_filled, knives_members,
    (entries_know_owner.1 _ _ _ knives_filled knives_members).2.2 "dagger", sets_filled,
    lookup_dagger, hfound.2.1, hfound.2.2⟩

end Tabletop
