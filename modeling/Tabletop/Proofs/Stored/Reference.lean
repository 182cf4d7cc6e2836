import Tabletop.Proofs.Json.Restore
import Tabletop.Proofs.Sorted
import Tabletop.Stored.Reference

namespace Tabletop

open Json (Restores ReadsBack writable_single writable_optionalText)

namespace Dice

variable {room : ℕ}

lemma Quantity.restores (q : Quantity) : Restores ofJson? (room + 1) q.toJson q := by
  have hsides := Json.restores_int32 room q.sides
  have hcount := Json.restores_int32 room q.count
  constructor
  · exact .record (by simpa using ⟨hsides.writable, hcount.writable⟩)
  · change (Json.int32? _).bind
      (fun sides => (Json.int32? _).bind fun count => some (⟨sides, count⟩ : Quantity)) = _
    rw [hsides.read, Option.bind_some, hcount.read, Option.bind_some]

lemma Modifier.ofJson?_record (value : Json) (name : Option String) :
    ofJson? (.record (("value", value) :: Json.optionalField "name" .text name)) =
      (Json.float? value).bind fun x => some ⟨x, name⟩ := by
  cases name <;> rfl

lemma Modifier.restores {m : Modifier} (h : ReadsBack m.value) :
    Restores ofJson? (room + 1) m.toJson m := by
  have hvalue := Json.restores_float room h
  constructor
  · refine .record ?_
    rw [List.forall_mem_cons]
    exact ⟨hvalue.writable, writable_optionalText⟩
  · rw [toJson, ofJson?_record]
    exact hvalue.wrap (Modifier.mk · m.name)

def Roll.numbers (r : Roll) : List Float := r.modifiers.toList.map Modifier.value

lemma Roll.ofJson?_record (quantities modifiers : Json) (name : Option String) :
    ofJson? (.record ([("quantities", quantities), ("modifiers", modifiers)] ++
      Json.optionalField "name" .text name)) =
      (Json.listOf? Quantity.ofJson? quantities).bind fun qs =>
        (Json.listOf? Modifier.ofJson? modifiers).bind fun ms =>
          some ⟨.ofList qs, .ofList ms, name⟩ := by
  cases name <;> rfl

lemma Roll.restores {r : Roll} (h : ∀ x ∈ r.numbers, ReadsBack x) :
    Restores ofJson? (room + 3) r.toJson r := by
  have hquantities : Restores (Json.listOf? Quantity.ofJson?) (room + 2)
      (.list (r.quantities.toList.map Quantity.toJson)) r.quantities.toList :=
    Json.restores_list fun q _ => q.restores
  have hmodifiers : Restores (Json.listOf? Modifier.ofJson?) (room + 2)
      (.list (r.modifiers.toList.map Modifier.toJson)) r.modifiers.toList :=
    Json.restores_list fun m hm => Modifier.restores (h m.value (List.mem_map.2 ⟨m, hm, rfl⟩))
  constructor
  · refine .record ?_
    rw [List.forall_mem_append]
    exact ⟨by simpa using ⟨hquantities.writable, hmodifiers.writable⟩, writable_optionalText⟩
  · rw [toJson, ofJson?_record, hquantities.read, Option.bind_some, hmodifiers.read, Option.bind_some,
      Sorted.ofList_toList, Sorted.ofList_toList]

end Dice

variable {room : ℕ}

lemma VariableId.restores (id : VariableId) : Restores ofJson? (room + 1) id.toJson id := by
  constructor
  · refine .record ?_
    rw [List.forall_mem_append]
    exact ⟨writable_optionalText, by simpa using .text room id.name⟩
  · obtain ⟨scope, name⟩ := id
    cases scope <;> rfl

lemma VariableRef.restores (r : VariableRef) : Restores ofJson? (room + 2) r.toJson r := by
  cases r with
  | id i =>
    exact i.restores.single VariableRef.id rfl
  | tag t => exact ⟨writable_single (.text _ t), rfl⟩

lemma EntryRef.restores (r : EntryRef) : Restores ofJson? (room + 1) r.toJson r := by
  constructor
  · exact .record (by simpa using ⟨.text room r.valueSet, .text room r.entry⟩)
  · rfl

lemma BooleanRef.restores (r : BooleanRef) : Restores ofJson? (room + 3) r.toJson r := by
  cases r with
  | literal b => exact ⟨writable_single (.bool _ b), rfl⟩
  | «variable» r =>
    exact r.restores.single BooleanRef.variable rfl

namespace NumberRef

def numbers : NumberRef → List Float
  | literal x => [x]
  | .variable _ | .entry _ => []

lemma restores {r : NumberRef} (h : ∀ x ∈ r.numbers, ReadsBack x) :
    Restores ofJson? (room + 3) r.toJson r := by
  cases r with
  | literal x =>
    exact (Json.restores_float _ (h x (by simp [numbers]))).single literal rfl
  | «variable» r =>
    exact r.restores.single NumberRef.variable rfl
  | entry r =>
    exact r.restores.single entry rfl

end NumberRef

namespace DiceRef

def numbers : DiceRef → List Float
  | literal r => r.numbers
  | .variable _ => []

lemma restores {r : DiceRef} (h : ∀ x ∈ r.numbers, ReadsBack x) :
    Restores ofJson? (room + 4) r.toJson r := by
  cases r with
  | literal r =>
    exact (Dice.Roll.restores h).single literal rfl
  | «variable» r =>
    exact r.restores.single DiceRef.variable rfl

end DiceRef

namespace DataRef

def numbers : DataRef → List Float
  | boolean _ => []
  | number r => r.numbers
  | diceRoll r => r.numbers

lemma restores {r : DataRef} (h : ∀ x ∈ r.numbers, ReadsBack x) :
    Restores ofJson? (room + 5) r.toJson r := by
  cases r with
  | boolean r =>
    exact r.restores.single boolean rfl
  | number r =>
    exact (NumberRef.restores h).single number rfl
  | diceRoll r =>
    exact (DiceRef.restores h).single diceRoll rfl

end DataRef

namespace Invocation

def numbers (i : Invocation) : List Float := i.arguments.flatMap DataRef.numbers

lemma restores {i : Invocation} (h : ∀ x ∈ i.numbers, ReadsBack x) :
    Restores ofJson? (room + 7) i.toJson i := by
  have harguments : Restores (Json.listOf? DataRef.ofJson?) (room + 6)
      (.list (i.arguments.map DataRef.toJson)) i.arguments :=
    Json.restores_list fun r hr =>
      DataRef.restores fun x hx => h x (List.mem_flatMap.2 ⟨r, hr, hx⟩)
  constructor
  · exact .record (by simpa using ⟨.text _ i.program, harguments.writable⟩)
  · exact harguments.wrap (Invocation.mk i.program)

end Invocation

end Tabletop
