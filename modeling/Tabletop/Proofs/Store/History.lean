import Tabletop.Proofs.Store.Listing
import Tabletop.Proofs.Variable.Made
import Tabletop.Sheet

namespace Tabletop

namespace Store

variable {s t : Store} {id : VariableId}

def Precedes (s t : Store) : Prop :=
  ∀ id v, s.get? id = some v → ∃ w, t.get? id = some w ∧ v.Precedes w

def Lawful (s : Store) : Prop := ∀ v ∈ s.slots, v.Lawful

lemma Precedes.refl (s : Store) : s.Precedes s := fun _ v hv => ⟨v, hv, .refl v⟩

lemma Precedes.trans {r s t : Store} (h : r.Precedes s) (h' : s.Precedes t) : r.Precedes t := by
  intro id u hu
  obtain ⟨v, hv, huv⟩ := h id u hu
  obtain ⟨w, hw, hvw⟩ := h' id v hv
  exact ⟨w, hw, huv.trans hvw⟩

lemma precedes_replace {v w : Variable} (hv : s.get? id = some v) (hvw : v.Precedes w) :
    s.Precedes ⟨s.slots.replace w⟩ := by
  intro other u hu
  rw [get?_replace]
  split
  · rename_i hid
    obtain rfl : id = other := (id_of_get? hv).symm.trans (hvw.id.symm.trans hid)
    obtain rfl : v = u := Option.some.inj (hv.symm.trans hu)
    exact ⟨w, rfl, hvw⟩
  · exact ⟨u, hu, .refl u⟩

section All

variable {P : Variable → Prop} (hs : ∀ v ∈ s.slots, P v)

include hs

lemma forall_replace {v : Variable} (hv : P v) : ∀ w ∈ s.slots.replace v, P w := by
  intro w hw
  rcases Sorted.mem_replace.1 hw with rfl | ⟨hw, _⟩
  · exact hv
  · exact hs w hw

lemma forall_insert {v : Variable} (hv : P v) (h : s.insert v = .ok t) : ∀ w ∈ t.slots, P w := by
  obtain ⟨_, rfl⟩ := insert_eq_ok.1 h
  exact forall_replace hs hv

lemma forall_gains {vs : List Variable} (hvs : ∀ v ∈ vs, P v) :
    ∀ w ∈ (vs.foldl Sheet.gain s).slots, P w := by
  refine List.foldlRecOn (motive := fun t => ∀ w ∈ t.slots, P w) vs Sheet.gain hs ?_
  intro t ht v hv
  rw [Sheet.gain]
  split
  · rename_i u hu
    exact forall_insert ht (hvs v hv) hu
  · exact ht

end All

lemma forall_ofVariables {P : Variable → Prop} {vs : List Variable} (hvs : ∀ v ∈ vs, P v)
    (h : ofVariables vs = .ok s) : ∀ v ∈ s.slots, P v :=
  fun v hv => hvs v ((perm_of_ofVariables h).mem_iff.1 hv)

lemma lawful_replace {v : Variable} (hs : s.Lawful) (hv : v.Lawful) :
    Lawful ⟨s.slots.replace v⟩ := forall_replace hs hv

lemma kept_insert {v : Variable} (hs : s.Lawful) (hv : v.Lawful) (h : s.insert v = .ok t) :
    t.Lawful ∧ s.Precedes t := by
  obtain ⟨hnew, rfl⟩ := insert_eq_ok.1 h
  refine ⟨lawful_replace hs hv, fun other u hu => ?_⟩
  have hother : v.id ≠ other := by
    rintro rfl
    rw [hnew] at hu
    cases hu
  rw [get?_replace, if_neg hother]
  exact ⟨u, hu, .refl u⟩

lemma kept_set {setting : Setting} (hs : s.Lawful) (h : s.set id setting = .ok t) :
    t.Lawful ∧ s.Precedes t := by
  obtain ⟨v, hv, htype, rfl⟩ := set_eq_ok.1 h
  have hlawful : v.Lawful := hs v (get?_eq_some_iff.1 hv).1
  exact ⟨lawful_replace hs (hlawful.set htype), precedes_replace hv (.set htype)⟩

lemma kept_record {a : Assignment} (hs : s.Lawful) (h : s.record id a = .ok t) :
    t.Lawful ∧ s.Precedes t := by
  obtain ⟨v, hv, htype, rfl⟩ := record_eq_ok.1 h
  exact ⟨lawful_replace hs (Variable.lawful_of_number htype), precedes_replace hv (.record v a)⟩

lemma kept_assign {x : Float} {description : Option String} (hs : s.Lawful)
    (h : s.assign id x description = .ok t) : t.Lawful ∧ s.Precedes t := by
  rw [assign, bind_eq_ok] at h
  obtain ⟨u, hu, h⟩ := h
  obtain ⟨hlawful, hsu⟩ := kept_set hs hu
  obtain ⟨hlawful, hut⟩ := kept_record hlawful h
  exact ⟨hlawful, hsu.trans hut⟩

lemma kept_gains {vs : List Variable} (hs : s.Lawful) (hvs : ∀ v ∈ vs, v.Lawful) :
    Lawful (vs.foldl Sheet.gain s) ∧ s.Precedes (vs.foldl Sheet.gain s) := by
  refine List.foldlRecOn (motive := fun t => Lawful t ∧ s.Precedes t) vs Sheet.gain ⟨hs, .refl s⟩ ?_
  rintro t ⟨hlawful, hst⟩ v hv
  rw [Sheet.gain]
  split
  · rename_i u hu
    obtain ⟨hlawful, htu⟩ := kept_insert hlawful (hvs v hv) hu
    exact ⟨hlawful, hst.trans htu⟩
  · exact ⟨hlawful, hst⟩

lemma lawful_of_ofVariables {vs : List Variable} (hvs : ∀ v ∈ vs, v.Lawful)
    (h : ofVariables vs = .ok s) : s.Lawful := forall_ofVariables hvs h

def SameBut (id : VariableId) (s t : Store) : Prop :=
  ∀ other, other ≠ id → t.get? other = s.get? other

lemma sameBut_replace {v w : Variable} (hv : s.get? id = some v) (hid : w.id = v.id) :
    s.SameBut id ⟨s.slots.replace w⟩ := by
  intro other hother
  obtain rfl := id_of_get? hv
  rw [get?_replace, hid, if_neg hother.symm]

end Store

end Tabletop
