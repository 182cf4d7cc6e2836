import Tabletop.Document.Variable
import Tabletop.Proofs.Results
import Tabletop.Stored.Variable

namespace Tabletop

open Document (Node)

namespace Variable

/-- Every way to come by a variable. -/
inductive Made : Variable → Prop
  | new (id : VariableId) (label : String) (setting : Setting) : Made { id, label, setting }
  | describe {v : Variable} (id : VariableId) (label description : String)
      (tags : Sorted Tag compare) : Made v → Made { v with id, label, description, tags }
  | keep {v w : Variable} {history : List Assignment} :
      Made v → v.withHistory? history = some w → Made w
  | decode {n : Node} {v : Variable} : Variable.decode n = .ok v → Made v
  | load {j : Json} {v : Variable} : Variable.ofJson? j = some v → Made v
  | set {v : Variable} {setting : Setting} : Made v → v.type = setting.type →
      Made { v with setting }
  | record {v : Variable} (a : Assignment) : Made v → v.type = .number →
      Made { v with history := v.history ++ [a] }

def Lawful (v : Variable) : Prop := v.type ≠ .number → v.history = []

lemma lawful_of_withHistory? {v w : Variable} {history : List Assignment}
    (h : v.withHistory? history = some w) : w.Lawful := by
  rw [withHistory?] at h
  split at h
  · cases h
  · rename_i hkept
    cases h
    intro htype
    by_contra hne
    exact hkept ⟨htype, hne⟩

lemma lawful_of_decode {n : Node} {v : Variable} (h : decode n = .ok v) : v.Lawful := by
  simp only [decode, bind_eq_ok] at h
  obtain ⟨setting, _, named, _, id, _, label, _, description, _, tags, _, history, _, h⟩ := h
  cases history with
  | none =>
    cases h
    exact fun _ => rfl
  | some m =>
    simp only [bind_eq_ok] at h
    obtain ⟨nodes, _, entries, _, h⟩ := h
    split at h
    · rename_i hw
      cases h
      exact lawful_of_withHistory? hw
    · cases h

lemma lawful_of_ofJson? {j : Json} {v : Variable} (h : ofJson? j = some v) : v.Lawful := by
  simp only [ofJson?, bind, Option.bind_eq_some_iff] at h
  obtain ⟨_, _, _, _, _, _, _, _, _, _, _, _, _, _, h⟩ := h
  exact lawful_of_withHistory? h

lemma Lawful.set {v : Variable} {setting : Setting} (h : v.Lawful) (htype : v.type = setting.type) :
    Lawful { v with setting } := fun hnumber => h (htype ▸ hnumber)

lemma lawful_of_number {v : Variable} (h : v.type = .number) : v.Lawful :=
  fun hother => absurd h hother

lemma Made.lawful {v : Variable} (h : v.Made) : v.Lawful := by
  induction h with
  | new id label setting => exact fun _ => rfl
  | describe id label description tags _ ih => exact ih
  | keep _ hw _ => exact lawful_of_withHistory? hw
  | decode h => exact lawful_of_decode h
  | load h => exact lawful_of_ofJson? h
  | set _ htype ih => exact ih.set htype
  | record a _ hnumber _ => exact lawful_of_number hnumber

/-- The second variable is what has become of the first. -/
structure Precedes (v w : Variable) : Prop where
  id : w.id = v.id
  label : w.label = v.label
  description : w.description = v.description
  tags : w.tags = v.tags
  type : w.type = v.type
  history : v.history <+: w.history

namespace Precedes

lemma refl (v : Variable) : v.Precedes v := ⟨rfl, rfl, rfl, rfl, rfl, List.prefix_refl _⟩

lemma trans {u v w : Variable} (h : u.Precedes v) (h' : v.Precedes w) : u.Precedes w where
  id := h'.id.trans h.id
  label := h'.label.trans h.label
  description := h'.description.trans h.description
  tags := h'.tags.trans h.tags
  type := h'.type.trans h.type
  history := h.history.trans h'.history

lemma set {v : Variable} {setting : Setting} (h : v.type = setting.type) :
    v.Precedes { v with setting } := ⟨rfl, rfl, rfl, rfl, h.symm, List.prefix_refl _⟩

lemma record (v : Variable) (a : Assignment) :
    v.Precedes { v with history := v.history ++ [a] } :=
  ⟨rfl, rfl, rfl, rfl, rfl, List.prefix_append _ _⟩

end Precedes

end Variable

end Tabletop
