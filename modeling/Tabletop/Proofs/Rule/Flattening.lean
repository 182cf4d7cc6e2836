import Mathlib.Data.List.Chain
import Mathlib.Logic.Relation
import Tabletop.Proofs.Results
import Tabletop.Proofs.Rule.Entries

/-! What a value set comes to: the entries at the leaves of its membership tree, from left to right,
the first of each id. -/

namespace Tabletop

open Relation (ReflTransGen TransGen)

namespace ValueSets

variable {sets : ValueSets} {limit : UInt64} {root id x : ValueSetId} {opened : List ValueSetId}
  {found found' : List Entry} {e : RuleError}

def Holds (sets : ValueSets) (id member : ValueSetId) : Prop :=
  ∃ s members, sets.get? id = some s ∧ s.members = .compound members ∧ member ∈ members

/-- Compound sets from `id` on, each of which holds the next. -/
structure Nest (sets : ValueSets) (id : ValueSetId) (chain : List ValueSetId) : Prop where
  head : chain.head? = some id
  holds : chain.IsChain sets.Holds
  compound : ∀ x ∈ chain, ∃ s members, sets.get? x = some s ∧ s.members = .compound members

/-- The entries at the leaves of the membership trees of some sets, from left to right. -/
inductive Leaves (sets : ValueSets) : List ValueSetId → List Entry → Prop
  | nil : Leaves sets [] []
  | base {id : ValueSetId} {ids : List ValueSetId} {s : ValueSet} {entries rest : List Entry} :
      sets.get? id = some s → s.members = .base entries → Leaves sets ids rest →
      Leaves sets (id :: ids) (entries ++ rest)
  | compound {id : ValueSetId} {ids members : List ValueSetId} {s : ValueSet}
      {inner rest : List Entry} :
      sets.get? id = some s → s.members = .compound members → Leaves sets members inner →
      Leaves sets ids rest → Leaves sets (id :: ids) (inner ++ rest)

section Leaves

variable {ids : List ValueSetId} {es es' : List Entry}

lemma Leaves.eq (h : sets.Leaves ids es) (h' : sets.Leaves ids es') : es = es' := by
  induction h generalizing es' with
  | nil =>
    cases h'
    rfl
  | base hs hm _ ih =>
    cases h' with
    | base hs' hm' hrest =>
      cases hs.symm.trans hs'
      cases hm.symm.trans hm'
      rw [ih hrest]
    | compound hs' hm' =>
      cases hs.symm.trans hs'
      cases hm.symm.trans hm'
  | compound hs hm _ _ ihinner ih =>
    cases h' with
    | base hs' hm' =>
      cases hs.symm.trans hs'
      cases hm.symm.trans hm'
    | compound hs' hm' hinner hrest =>
      cases hs.symm.trans hs'
      cases hm.symm.trans hm'
      rw [ihinner hinner, ih hrest]

lemma leaves_cons : sets.Leaves (id :: ids) es ↔
    ∃ first rest, sets.Leaves [id] first ∧ sets.Leaves ids rest ∧ es = first ++ rest := by
  constructor
  · intro h
    cases h with
    | @base _ _ _ entries rest hs hm hrest =>
      exact ⟨entries, rest, by simpa using Leaves.base hs hm .nil, hrest, rfl⟩
    | @compound _ _ _ _ inner rest hs hm hinner hrest =>
      exact ⟨inner, rest, by simpa using Leaves.compound hs hm hinner .nil, hrest, rfl⟩
  · rintro ⟨first, rest, hfirst, hrest, rfl⟩
    cases hfirst with
    | base hs hm hnil =>
      cases hnil
      simpa using Leaves.base hs hm hrest
    | compound hs hm hinner hnil =>
      cases hnil
      simpa using Leaves.compound hs hm hinner hrest

lemma not_holds_of_base {s : ValueSet} {entries : List Entry} (hs : sets.get? id = some s)
    (hm : s.members = .base entries) : ¬ sets.Holds id x := by
  rintro ⟨t, members, ht, hmembers, _⟩
  cases hs.symm.trans ht
  cases hm.symm.trans hmembers

lemma Leaves.mem_iff (h : sets.Leaves ids es) {a : Entry} :
    a ∈ es ↔ ∃ id ∈ ids, ∃ x s entries, ReflTransGen sets.Holds id x ∧ sets.get? x = some s ∧
      s.members = .base entries ∧ a ∈ entries := by
  induction h with
  | nil => simp
  | @base id ids s entries rest hs hm hrest ih =>
    rw [List.mem_append, ih]
    simp only [List.exists_mem_cons_iff]
    refine or_congr_left ⟨fun ha => ⟨id, s, entries, .refl, hs, hm, ha⟩, ?_⟩
    rintro ⟨x, t, entries', hx, ht, hm', ha⟩
    rcases ReflTransGen.cases_head hx with rfl | ⟨y, hy, _⟩
    · cases hs.symm.trans ht
      cases hm.symm.trans hm'
      exact ha
    · exact absurd hy (not_holds_of_base hs hm)
  | @compound id ids members s inner rest hs hm hinner hrest ihinner ih =>
    rw [List.mem_append, ihinner, ih]
    simp only [List.exists_mem_cons_iff]
    refine or_congr_left ⟨?_, ?_⟩
    · rintro ⟨member, hmember, x, t, entries, hx, ha⟩
      exact ⟨x, t, entries, .head ⟨s, members, hs, hm, hmember⟩ hx, ha⟩
    · rintro ⟨x, t, entries, hx, ht, hm', ha⟩
      rcases ReflTransGen.cases_head hx with rfl | ⟨y, ⟨u, members', hu, hmembers, hy⟩, hx⟩
      · cases hs.symm.trans ht
        cases hm.symm.trans hm'
      · cases hs.symm.trans hu
        cases hm.symm.trans hmembers
        exact ⟨y, hy, x, t, entries, hx, ht, hm', ha⟩

end Leaves

lemma leaves_of_foldlM {collect : List Entry → ValueSetId → Except RuleError (List Entry)}
    {ids : List ValueSetId}
    (hcollect : ∀ found id found', collect found id = .ok found' →
      ∃ es, sets.Leaves [id] es ∧ found' = es.foldl Entry.keep found)
    (h : ids.foldlM collect found = .ok found') :
    ∃ es, sets.Leaves ids es ∧ found' = es.foldl Entry.keep found := by
  induction ids generalizing found with
  | nil =>
    cases h
    exact ⟨[], .nil, rfl⟩
  | cons id ids ih =>
    rw [List.foldlM_cons, bind_eq_ok] at h
    obtain ⟨between, hid, h⟩ := h
    obtain ⟨first, hfirst, rfl⟩ := hcollect found id between hid
    obtain ⟨rest, hrest, rfl⟩ := ih h
    exact ⟨first ++ rest, leaves_cons.2 ⟨first, rest, hfirst, hrest, rfl⟩,
      (List.foldl_append ..).symm⟩

lemma leaves_of_collect (h : sets.collect limit opened found id = .ok found') :
    ∃ es, sets.Leaves [id] es ∧ found' = es.foldl Entry.keep found := by
  fun_induction collect sets limit opened found id generalizing found' with
  | case1 | case2 | case4 => cases h
  | case3 opened found id hid s hs entries hm =>
    cases h
    exact ⟨entries, by simpa using Leaves.base hs hm .nil, rfl⟩
  | case5 opened found id hid s hs members hm hl ih =>
    obtain ⟨es, hes, hfound⟩ := leaves_of_foldlM (fun found id found' => ih found id) h
    exact ⟨es, by simpa using Leaves.compound hs hm hes .nil, hfound⟩

/-- What lies in a set can be put together: every set in it is registered, none of them lies in
itself, and no more compound sets are nested than there is room for. -/
structure Sound (sets : ValueSets) (room : ℕ) (id : ValueSetId) : Prop where
  registered : ∀ x, ReflTransGen sets.Holds id x → ∃ s, sets.get? x = some s
  acyclic : ∀ x, ReflTransGen sets.Holds id x → ¬ TransGen sets.Holds x x
  nesting : ∀ chain, sets.Nest id chain → chain.length ≤ room

lemma Sound.holds {room : ℕ} (h : sets.Sound room id) (hx : sets.Holds id x) :
    sets.Sound room x := by
  refine ⟨fun y hy => h.registered y (.head hx hy), fun y hy => h.acyclic y (.head hx hy), ?_⟩
  rintro (_ | ⟨y, chain⟩) ⟨hhead, hchain, hcompound⟩
  · cases hhead
  · cases hhead
    obtain ⟨s, members, hs, hm, _⟩ := hx
    have hnest : sets.Nest id (id :: x :: chain) :=
      ⟨rfl, hchain.cons_cons ⟨s, members, hs, hm, ‹_›⟩,
        List.forall_mem_cons.2 ⟨⟨s, members, hs, hm⟩, hcompound⟩⟩
    have hlength := h.nesting _ hnest
    simp only [List.length_cons] at hlength ⊢
    omega

lemma sound_of_collect (h : sets.collect limit opened found id = .ok found') :
    (∀ x, ReflTransGen sets.Holds id x → x ∉ opened) ∧
      sets.Sound (limit.toNat - opened.length) id := by
  fun_induction collect sets limit opened found id generalizing found' with
  | case1 | case2 | case4 => cases h
  | case3 opened found id hid s hs entries hm =>
    have hleaf : ∀ x, ReflTransGen sets.Holds id x → x = id := by
      intro x hx
      rcases ReflTransGen.cases_head hx with rfl | ⟨y, hy, _⟩
      · rfl
      · exact absurd hy (not_holds_of_base hs hm)
    refine ⟨fun x hx => hleaf x hx ▸ hid, fun x hx => hleaf x hx ▸ ⟨s, hs⟩, fun x hx ht => ?_, ?_⟩
    · rw [hleaf x hx] at ht
      obtain ⟨y, hy, _⟩ := TransGen.head'_iff.1 ht
      exact not_holds_of_base hs hm hy
    · intro chain hchain
      obtain ⟨t, members, ht, hmembers⟩ := hchain.compound id (List.mem_of_mem_head? hchain.head)
      cases hs.symm.trans ht
      cases hm.symm.trans hmembers
  | case5 opened found id hid s hs members hm hl ih =>
    have hmember : ∀ y, sets.Holds id y →
        (∀ x, ReflTransGen sets.Holds y x → x ∉ id :: opened) ∧
          sets.Sound (limit.toNat - (id :: opened).length) y := by
      rintro y ⟨t, members', ht, hmembers, hy⟩
      cases hs.symm.trans ht
      cases hm.symm.trans hmembers
      obtain ⟨b, c, hbc⟩ := exists_of_foldlM_eq_ok h hy
      exact ih b y hbc
    refine ⟨fun x hx => ?_, fun x hx => ?_, fun x hx ht => ?_, ?_⟩
    · rcases ReflTransGen.cases_head hx with rfl | ⟨y, hy, hx⟩
      · exact hid
      · exact List.not_mem_of_not_mem_cons ((hmember y hy).1 x hx)
    · rcases ReflTransGen.cases_head hx with rfl | ⟨y, hy, hx⟩
      · exact ⟨s, hs⟩
      · exact (hmember y hy).2.registered x hx
    · rcases ReflTransGen.cases_head hx with rfl | ⟨y, hy, hx⟩
      · obtain ⟨y, hy, hback⟩ := TransGen.head'_iff.1 ht
        exact (hmember y hy).1 id hback List.mem_cons_self
      · exact (hmember y hy).2.acyclic x hx ht
    · rintro chain ⟨hhead, hchain, hcompound⟩
      match chain with
      | [] => cases hhead
      | [_] =>
        simp only [List.length_singleton]
        omega
      | a :: y :: chain =>
        cases hhead
        obtain ⟨hay, hrest⟩ := List.isChain_cons_cons.1 hchain
        have hlength := (hmember y hay).2.nesting (y :: chain)
          ⟨rfl, hrest, fun z hz => hcompound z (List.mem_cons_of_mem _ hz)⟩
        simp only [List.length_cons] at hlength ⊢
        omega

structure Descent (sets : ValueSets) (root id : ValueSetId) (opened : List ValueSetId) : Prop where
  chain : (id :: opened).IsChain fun x y => sets.Holds y x
  start : (id :: opened).getLast? = some root
  compound : ∀ x ∈ opened, ∃ s members, sets.get? x = some s ∧ s.members = .compound members
  leads : ∀ x ∈ opened, TransGen sets.Holds x id
  reached : ReflTransGen sets.Holds root id

lemma Descent.enter (h : sets.Descent root id opened) {s : ValueSet} {members : List ValueSetId}
    (hs : sets.get? id = some s) (hm : s.members = .compound members) (hx : x ∈ members) :
    sets.Descent root x (id :: opened) := by
  have hholds : sets.Holds id x := ⟨s, members, hs, hm, hx⟩
  refine ⟨h.chain.cons_cons hholds, ?_, ?_, ?_, h.reached.tail hholds⟩
  · rw [List.getLast?_cons_cons]
    exact h.start
  · exact List.forall_mem_cons.2 ⟨⟨s, members, hs, hm⟩, h.compound⟩
  · exact List.forall_mem_cons.2 ⟨.single hholds, fun y hy => (h.leads y hy).tail hholds⟩

lemma Descent.nest (h : sets.Descent root id opened) {s : ValueSet} {members : List ValueSetId}
    (hs : sets.get? id = some s) (hm : s.members = .compound members) :
    sets.Nest root (id :: opened).reverse := by
  refine ⟨?_, List.isChain_reverse.2 h.chain, fun x hx => ?_⟩
  · rw [List.head?_reverse]
    exact h.start
  · rcases List.mem_cons.1 (List.mem_reverse.1 hx) with rfl | hx
    · exact ⟨s, members, hs, hm⟩
    · exact h.compound x hx

def Explains (sets : ValueSets) (limit : UInt64) (root : ValueSetId) : RuleError → Prop
  | .cyclicValueSet x => ReflTransGen sets.Holds root x ∧ TransGen sets.Holds x x
  | .unknownValueSet x => ReflTransGen sets.Holds root x ∧ sets.get? x = none
  | .tooDeep what bound => what = .valueSet ∧ bound = limit ∧
      ∃ chain, sets.Nest root chain ∧ limit.toNat < chain.length
  | _ => False

lemma explains_of_collect (h : sets.Descent root id opened)
    (he : sets.collect limit opened found id = .error e) : sets.Explains limit root e := by
  fun_induction collect sets limit opened found id with
  | case1 opened found id hid =>
    cases he
    exact ⟨h.reached, h.leads id hid⟩
  | case2 opened found id hid hs =>
    cases he
    exact ⟨h.reached, hs⟩
  | case3 => cases he
  | case4 opened found id hid s hs members hm hl =>
    cases he
    refine ⟨rfl, rfl, _, h.nest hs hm, ?_⟩
    rw [List.length_reverse, List.length_cons]
    omega
  | case5 opened found id hid s hs members hm hl ih =>
    obtain ⟨found, member, hmember, he⟩ := exists_of_foldlM_eq_error he
    exact ih found member (h.enter hs hm hmember) he

lemma explains_of_entries (h : sets.entries limit id = .error e) : sets.Explains limit id e :=
  explains_of_collect ⟨.singleton id, rfl, nofun, nofun, .refl⟩ h

lemma Sound.not_explains (h : sets.Sound limit.toNat id) : ¬ sets.Explains limit id e := by
  intro he
  cases e with
  | cyclicValueSet x => exact h.acyclic x he.1 he.2
  | unknownValueSet x =>
    obtain ⟨s, hs⟩ := h.registered x he.1
    cases hs.symm.trans he.2
  | tooDeep what bound =>
    obtain ⟨_, _, chain, hchain, hlength⟩ := he
    exact absurd (h.nesting chain hchain) (by omega)
  | _ => exact he

lemma exists_entries_iff : (∃ found, sets.entries limit id = .ok found) ↔
    sets.Sound limit.toNat id := by
  constructor
  · rintro ⟨found, h⟩
    exact (sound_of_collect h).2
  · intro h
    cases hfound : sets.entries limit id with
    | ok found => exact ⟨found, rfl⟩
    | error e => exact absurd (explains_of_entries hfound) h.not_explains

lemma leaves_of_entries (h : sets.entries limit id = .ok found) :
    ∃ leaves, sets.Leaves [id] leaves ∧ found = Entry.firsts leaves := by
  obtain ⟨leaves, hleaves, hfound⟩ := leaves_of_collect h
  exact ⟨leaves, hleaves, hfound.trans (Entry.firsts_eq_foldl leaves).symm⟩

lemma firsts_flatten {ids : List ValueSetId} {results : List (List Entry)}
    (h : ids.mapM (sets.entries limit) = .ok results) :
    ∃ leaves, sets.Leaves ids leaves ∧ Entry.firsts results.flatten = Entry.firsts leaves := by
  induction ids generalizing results with
  | nil =>
    cases h
    exact ⟨[], .nil, rfl⟩
  | cons id ids ih =>
    rw [List.mapM_cons, bind_eq_ok] at h
    obtain ⟨found, hfound, h⟩ := h
    obtain ⟨results, hresults, h⟩ := bind_eq_ok.1 h
    cases h
    obtain ⟨first, hfirst, rfl⟩ := leaves_of_entries hfound
    obtain ⟨rest, hrest, heq⟩ := ih hresults
    refine ⟨first ++ rest, leaves_cons.2 ⟨first, rest, hfirst, hrest, rfl⟩, ?_⟩
    rw [List.flatten_cons, ← Entry.firsts_append, Entry.firsts_firsts, heq, Entry.firsts_append]

lemma exists_results (h : sets.entries limit id = .ok found) {s : ValueSet}
    {members : List ValueSetId} (hs : sets.get? id = some s) (hm : s.members = .compound members) :
    ∃ results, members.mapM (sets.entries limit) = .ok results ∧
      found = Entry.firsts results.flatten := by
  have hsound : sets.Sound limit.toNat id := exists_entries_iff.1 ⟨found, h⟩
  obtain ⟨results, hresults⟩ := exists_mapM_eq_ok fun member hmember =>
    exists_entries_iff.2 (hsound.holds ⟨s, members, hs, hm, hmember⟩)
  obtain ⟨inner, hinner, heq⟩ := firsts_flatten hresults
  obtain ⟨leaves, hleaves, rfl⟩ := leaves_of_entries h
  have hcompound : sets.Leaves [id] (inner ++ []) := .compound hs hm hinner .nil
  refine ⟨results, hresults, ?_⟩
  rw [heq, hleaves.eq hcompound, List.append_nil]

end ValueSets

/-- The entries of a value set can be put together just when all that lies in it is registered, no
set there lies in itself and no more compound sets are nested than the limit allows. They are then
the entries at the leaves of its membership tree, from left to right, the first of each id, whatever
the limit; those of a compound set are what its members come to in turn. A set that is reported to
lie in itself does, and lies in the one that was asked for. -/
theorem flattening_exact (sets : ValueSets) (id : ValueSetId) (limit : UInt64) :
    ((∃ found, sets.entries limit id = .ok found) ↔ sets.Sound limit.toNat id) ∧
    (∀ found, sets.entries limit id = .ok found →
      (∃ leaves, sets.Leaves [id] leaves ∧ found = Entry.firsts leaves) ∧
      (found.map Entry.id).Nodup ∧
      (∀ x s entries, ReflTransGen sets.Holds id x → sets.get? x = some s →
        s.members = .base entries → ∀ e ∈ entries, e.id ∈ found.map Entry.id) ∧
      (∀ limit' found', sets.entries limit' id = .ok found' → found' = found) ∧
      ∀ s members, sets.get? id = some s → s.members = .compound members →
        ∃ results, members.mapM (sets.entries limit) = .ok results ∧
          found = Entry.firsts results.flatten) ∧
    ∀ x, sets.entries limit id = .error (.cyclicValueSet x) →
      ReflTransGen sets.Holds id x ∧ TransGen sets.Holds x x := by
  refine ⟨ValueSets.exists_entries_iff, fun found h => ?_,
    fun x h => ValueSets.explains_of_entries h⟩
  obtain ⟨leaves, hleaves, hfound⟩ := ValueSets.leaves_of_entries h
  refine ⟨⟨leaves, hleaves, hfound⟩, ?_, ?_, ?_, fun s members hs hm =>
    ValueSets.exists_results h hs hm⟩
  · rw [hfound]
    exact Entry.nodup_firsts leaves
  · intro x s entries hx hs hm e he
    have hmem : e ∈ leaves := hleaves.mem_iff.2 ⟨id, by simp, x, s, entries, hx, hs, hm, he⟩
    rw [hfound]
    exact Entry.id_mem_firsts hmem
  · intro limit' found' h'
    obtain ⟨leaves', hleaves', hfound'⟩ := ValueSets.leaves_of_entries h'
    rw [hfound, hfound', hleaves.eq hleaves']

namespace Flattening

def dagger : Entry := { id := "dagger", valueSet := "knives", payload := .number 4 }

def dart : Entry := { id := "dart", valueSet := "knives", payload := .number 4 }

def sword : Entry := { id := "sword", valueSet := "blades", payload := .number 8 }

def sets : ValueSets := ⟨[
  { id := "arms", label := "Arms", members := .compound ["thrown", "blades", "knives"] },
  { id := "blades", label := "Blades",
    members := .base [{ dagger with valueSet := "blades", payload := .number 5 }, sword] },
  { id := "knives", label := "Knives", members := .base [dagger, dart] },
  { id := "ring", label := "Ring", members := .compound ["knives", "ring"] },
  { id := "thrown", label := "Thrown", members := .compound ["knives"] }], by decide⟩

lemma entries_arms : sets.entries 2 "arms" = .ok [dagger, dart, sword] := by cbv

lemma entries_ring : sets.entries 2 "ring" = .error (.cyclicValueSet "ring") := by cbv

end Flattening

open Flattening in
theorem flattening_exact_arms :
    sets.entries 2 "arms" = .ok [dagger, dart, sword] ∧ sets.Sound 2 "arms" ∧
      (∃ leaves, sets.Leaves ["arms"] leaves ∧ [dagger, dart, sword] = Entry.firsts leaves) ∧
      (∀ limit' found', sets.entries limit' "arms" = .ok found' → found' = [dagger, dart, sword]) ∧
      sets.entries 2 "ring" = .error (.cyclicValueSet "ring") ∧
      TransGen sets.Holds "ring" "ring" :=
  have harms := flattening_exact sets "arms" 2
  have hfound := harms.2.1 _ entries_arms
  ⟨entries_arms, harms.1.1 ⟨_, entries_arms⟩, hfound.1, hfound.2.2.2.1, entries_ring,
    ((flattening_exact sets "ring" 2).2.2 _ entries_ring).2⟩

end Tabletop
