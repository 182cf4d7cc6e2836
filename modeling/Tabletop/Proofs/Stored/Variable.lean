import Tabletop.Proofs.Stored.Reference
import Tabletop.Proofs.Variable.Made
import Tabletop.Stored.Variable

namespace Tabletop

open Json (Restores ReadsBack writable_single writable_tagged writable_optionalText)

variable {room : ℕ}

lemma writable_unknown : Json.Writable id (room + 1) unknownJson :=
  writable_single (.text _ "unknown")

namespace BooleanSetting

def numbers : BooleanSetting → List Float
  | literal _ => []
  | program i => i.numbers

lemma restores {s : BooleanSetting} (h : ∀ x ∈ s.numbers, ReadsBack x) :
    Restores ofJson? (room + 8) s.toJson s := by
  cases s with
  | literal b => exact ⟨writable_tagged (.bool _ b), rfl⟩
  | program i =>
    exact (Invocation.restores h).tagged program rfl

end BooleanSetting

namespace NumberSetting

def numbers : NumberSetting → List Float
  | .literal x => [x]
  | .program i => i.numbers
  | .unknown | .variable _ | .entry _ | .summation _ => []

lemma restores {s : NumberSetting} (h : ∀ x ∈ s.numbers, ReadsBack x) :
    Restores ofJson? (room + 8) s.toJson s := by
  cases s with
  | literal x =>
    exact (Json.restores_float _ (h x (by simp [numbers]))).tagged NumberSetting.literal rfl
  | unknown => exact ⟨writable_unknown, rfl⟩
  | «variable» id =>
    exact id.restores.tagged NumberSetting.variable rfl
  | program i =>
    exact (Invocation.restores h).tagged NumberSetting.program rfl
  | entry r =>
    exact r.restores.tagged NumberSetting.entry rfl
  | summation id => exact ⟨writable_tagged (.text _ id), rfl⟩

end NumberSetting

namespace TextSetting

def numbers : TextSetting → List Float
  | program i => i.numbers
  | literal _ | unknown | entry _ | choice _ => []

lemma restores {s : TextSetting} (h : ∀ x ∈ s.numbers, ReadsBack x) :
    Restores ofJson? (room + 8) s.toJson s := by
  cases s with
  | literal t => exact ⟨writable_tagged (.text _ t), rfl⟩
  | unknown => exact ⟨writable_unknown, rfl⟩
  | entry r =>
    exact r.restores.tagged entry rfl
  | program i =>
    exact (Invocation.restores h).tagged program rfl
  | choice id => exact ⟨writable_tagged (.text _ id), rfl⟩

end TextSetting

namespace DiceSetting

def numbers : DiceSetting → List Float
  | literal r => r.numbers

lemma restores {s : DiceSetting} (h : ∀ x ∈ s.numbers, ReadsBack x) :
    Restores ofJson? (room + 8) s.toJson s := by
  obtain ⟨r⟩ := s
  exact (Dice.Roll.restores h).tagged literal rfl

end DiceSetting

namespace Setting

def numbers : Setting → List Float
  | boolean s => s.numbers
  | number s => s.numbers
  | text s => s.numbers
  | diceRoll s => s.numbers

lemma restores {s : Setting} (h : ∀ x ∈ s.numbers, ReadsBack x) :
    Restores ofJson? (room + 9) s.toJson s := by
  cases s with
  | boolean s =>
    exact (BooleanSetting.restores h).single boolean rfl
  | number s =>
    exact (NumberSetting.restores h).single number rfl
  | text s =>
    exact (TextSetting.restores h).single text rfl
  | diceRoll s =>
    exact (DiceSetting.restores h).single diceRoll rfl

end Setting

namespace Assignment

def numbers (a : Assignment) : List Float := a.setting.numbers

lemma ofJson?_record (value : Json) (description : Option String) :
    ofJson? (.record (("value", value) :: Json.optionalField "description" .text description)) =
      (NumberSetting.ofJson? value).bind fun s => some ⟨s, description⟩ := by
  cases description <;> rfl

lemma restores {a : Assignment} (h : ∀ x ∈ a.numbers, ReadsBack x) :
    Restores ofJson? (room + 9) a.toJson a := by
  have hsetting : Restores NumberSetting.ofJson? (room + 8) a.setting.toJson a.setting :=
    NumberSetting.restores h
  constructor
  · refine .record ?_
    rw [List.forall_mem_cons]
    exact ⟨hsetting.writable, writable_optionalText⟩
  · rw [toJson, ofJson?_record]
    exact hsetting.wrap (Assignment.mk · a.description)

end Assignment

lemma restores_history {history : List Assignment}
    (h : ∀ x ∈ history.flatMap Assignment.numbers, ReadsBack x) :
    Restores historyOfJson? (room + 11) (historyJson history) history := by
  have hentries : Restores (Json.listOf? Assignment.ofJson?) (room + 10)
      (.list (history.map Assignment.toJson)) history :=
    Json.restores_list fun a ha =>
      Assignment.restores fun x hx => h x (List.mem_flatMap.2 ⟨a, ha, hx⟩)
  exact ⟨writable_single hentries.writable, hentries.read⟩

namespace Variable

def numbers (v : Variable) : List Float :=
  v.setting.numbers ++ v.history.flatMap Assignment.numbers

lemma withHistory?_of_lawful {v : Variable} (h : v.Lawful) :
    ({ v with history := [] } : Variable).withHistory? v.history = some v := by
  rw [withHistory?, if_neg]
  rintro ⟨htype, hne⟩
  exact hne (h htype)

lemma ofJson?_record (id tags setting history : Json) (label description : String) (bare : Bool) :
    ofJson? (.record ([("id", id), ("label", .text label), ("description", .text description),
      ("tags", tags), ("value", setting)] ++ if bare then [] else [("history", history)])) =
      (VariableId.ofJson? id).bind fun id => (Json.listOf? Json.text? tags).bind fun tags =>
        (Setting.ofJson? setting).bind fun setting =>
          (if bare then some [] else historyOfJson? history).bind
            (withHistory? ⟨id, label, description, .ofList tags, setting, []⟩) := by
  cases bare <;> rfl

lemma restores {v : Variable} (hv : v.Lawful) (h : ∀ x ∈ v.numbers, ReadsBack x) :
    Restores ofJson? (room + 12) v.toJson v := by
  have hid : Restores VariableId.ofJson? (room + 11) v.id.toJson v.id := v.id.restores
  have htags : Restores (Json.listOf? Json.text?) (room + 11) (.list (v.tags.toList.map .text))
      v.tags.toList := Json.restores_list fun t _ => Json.restores_text _ t
  have hsetting : Restores Setting.ofJson? (room + 11) v.setting.toJson v.setting :=
    Setting.restores fun x hx => h x (List.mem_append_left _ hx)
  have hhistory : Restores historyOfJson? (room + 11) (historyJson v.history) v.history :=
    restores_history fun x hx => h x (List.mem_append_right _ hx)
  constructor
  · refine .record ?_
    rw [List.forall_mem_append]
    constructor
    · simpa using ⟨hid.writable, .text _ v.label, .text _ v.description, htags.writable,
        hsetting.writable⟩
    · split
      · simp
      · simpa using hhistory.writable
  · have hkept : (if v.history.isEmpty then some [] else historyOfJson? (historyJson v.history)) =
        some v.history := by
      rw [hhistory.read]
      cases v.history <;> rfl
    rw [toJson, ofJson?_record, hid.read, Option.bind_some, htags.read, Option.bind_some, hsetting.read,
      Option.bind_some, hkept, Option.bind_some, Sorted.ofList_toList]
    exact withHistory?_of_lawful hv

end Variable

end Tabletop
