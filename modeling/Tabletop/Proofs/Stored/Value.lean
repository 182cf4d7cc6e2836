import Tabletop.Proofs.Stored.Reference
import Tabletop.Stored.Value

namespace Tabletop

open Json (Restores ReadsBack writable_tagged)

variable {room : ℕ}

lemma ValueType.restores (t : ValueType) : Restores ofJson? room t.toJson t :=
  ⟨.text room t.name, ValueType.ofName?_name t⟩

namespace Value

def numbers : Value → List Float
  | number x => [x]
  | diceRoll r => r.numbers
  | text _ | boolean _ | listText _ => []

lemma restores {v : Value} (h : ∀ x ∈ v.numbers, ReadsBack x) :
    Restores ofJson? (room + 4) v.toJson v := by
  cases v with
  | number x =>
    exact (Json.restores_float _ (h x (by simp [numbers]))).tagged number rfl
  | text s => exact ⟨writable_tagged (.text _ s), rfl⟩
  | boolean b => exact ⟨writable_tagged (.bool _ b), rfl⟩
  | diceRoll r =>
    exact (Dice.Roll.restores h).tagged diceRoll rfl
  | listText items =>
    have hitems : Restores (Json.listOf? Json.text?) (room + 3) (.list (items.map .text)) items :=
      Json.restores_list fun s _ => Json.restores_text _ s
    exact hitems.tagged listText rfl

end Value

end Tabletop
