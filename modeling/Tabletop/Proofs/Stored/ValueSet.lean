import Tabletop.Proofs.Rule.Made
import Tabletop.Proofs.Stored.Value
import Tabletop.Proofs.Stored.Variable

namespace Tabletop

open Json (Restores ReadsBack writable_single writable_optional writable_optionalText)

variable {room : ℕ}

lemma Citation.restores (c : Citation) : Restores ofJson? (room + 1) c.toJson c := by
  constructor
  · refine .record ?_
    rw [List.forall_mem_append, List.forall_mem_cons]
    exact ⟨⟨.text _ c.chapter, writable_optionalText⟩, writable_optionalText⟩
  · obtain ⟨chapter, heading, subheading⟩ := c
    cases heading <;> cases subheading <;> rfl

namespace Payload

def numbers : Payload → List Float
  | number x => [x]
  | text _ => []

lemma restores {p : Payload} (h : ∀ x ∈ p.numbers, ReadsBack x) :
    Restores ofJson? (room + 1) p.toJson p := by
  cases p with
  | number x =>
    have hx := Json.restores_float room (h x (by simp [numbers]))
    exact hx.single number rfl
  | text s => exact ⟨writable_single (.text _ s), rfl⟩

end Payload

namespace Entry

def numbers (e : Entry) : List Float := e.gains.flatMap Variable.numbers ++ e.payload.numbers

lemma restores {e : Entry} (he : ∀ v ∈ e.gains, v.Lawful) (h : ∀ x ∈ e.numbers, ReadsBack x) :
    Restores ofJson? (room + 14) e.toJson e := by
  have hgains : Restores (Json.listOf? Variable.ofJson?) (room + 13)
      (.list (e.gains.map Variable.toJson)) e.gains :=
    Json.restores_list fun v hv => Variable.restores (he v hv) fun x hx =>
      h x (List.mem_append_left _ (List.mem_flatMap.2 ⟨v, hv, hx⟩))
  have hpayload : Restores Payload.ofJson? (room + 13) e.payload.toJson e.payload :=
    Payload.restores fun x hx => h x (List.mem_append_right _ hx)
  have hcitation (c : Citation) : Restores Citation.ofJson? (room + 13) c.toJson c := c.restores
  constructor
  · refine .record ?_
    simp only [List.forall_mem_append]
    refine ⟨⟨?_, writable_optional fun c _ => (hcitation c).writable⟩, ?_⟩
    · simpa using ⟨.text _ e.id, .text _ e.valueSet, .text _ e.description⟩
    · simpa using ⟨hgains.writable, hpayload.writable⟩
  · obtain ⟨id, valueSet, description, citation, gains, payload⟩ := e
    have hread : ofJson? (toJson ⟨id, valueSet, description, citation, gains, payload⟩) =
        (citation.elim (some none) fun c => (Citation.ofJson? c.toJson).map some).bind
          fun citation =>
            (Json.listOf? Variable.ofJson? (.list (gains.map Variable.toJson))).bind fun gains =>
              (Payload.ofJson? payload.toJson).bind fun payload =>
                some ⟨id, valueSet, description, citation, gains, payload⟩ := by
      cases citation <;> rfl
    have hkept : (citation.elim (some none) fun c => (Citation.ofJson? c.toJson).map some) =
        some citation := by
      cases citation with
      | none => rfl
      | some c => rw [Option.elim_some, (hcitation c).read, Option.map_some]
    rw [hread, hkept, Option.bind_some, hgains.read, Option.bind_some]
    exact hpayload.wrap _

end Entry

namespace Members

def numbers (m : Members) : List Float := m.entries.flatMap Entry.numbers

lemma restores {owner : ValueSetId} {m : Members} (hm : m.Lawful owner)
    (h : ∀ x ∈ m.numbers, ReadsBack x) : Restores ofJson? (room + 16) m.toJson m := by
  cases hm with
  | @base entries _ _ hgains =>
    have hentries : Restores (Json.listOf? Entry.ofJson?) (room + 15)
        (.list (entries.map Entry.toJson)) entries :=
      Json.restores_list fun e he => Entry.restores (hgains e he) fun x hx =>
        h x (List.mem_flatMap.2 ⟨e, he, hx⟩)
    exact hentries.single base rfl
  | @compound sets _ =>
    have hsets : Restores (Json.listOf? Json.text?) (room + 15) (.list (sets.map .text)) sets :=
      Json.restores_list fun s _ => Json.restores_text _ s
    exact hsets.single compound rfl

end Members

namespace ValueSet

def numbers (s : ValueSet) : List Float := s.members.numbers

lemma restores {s : ValueSet} (hs : s.Lawful) (h : ∀ x ∈ s.numbers, ReadsBack x) :
    Restores ofJson? (room + 17) s.toJson s := by
  have hmembers : Restores Members.ofJson? (room + 16) s.members.toJson s.members :=
    Members.restores hs h
  constructor
  · refine .record ?_
    simp only [List.forall_mem_append]
    refine ⟨⟨?_, writable_optional fun t _ => .text _ t.name⟩, by simpa using hmembers.writable⟩
    simpa using ⟨.text _ s.id, .text _ s.label, .text _ s.labelSingular, .text _ s.description⟩
  · have hread : ofJson? s.toJson = (Members.ofJson? s.members.toJson).bind fun members =>
        some (({ s with members } : ValueSet).empty.addMembers members) := by
      obtain ⟨id, label, labelSingular, description, valueType, members⟩ := s
      cases valueType with
      | none => rfl
      | some t => cases t <;> rfl
    rw [hread, hmembers.read, Option.bind_some]
    exact congrArg some hs.addMembers_empty

end ValueSet

end Tabletop
