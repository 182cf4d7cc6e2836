import Tabletop.Evaluation.Call
import Tabletop.Proofs.Sheet.Id
import Tabletop.Proofs.Store.Listing
import Tabletop.Proofs.Stored.Variable
import Tabletop.Sheet.Save

namespace Tabletop

open Json (Restores ReadsBack)

namespace Store

lemma ofVariables_toList (s : Store) : ofVariables s.slots.toList = .ok s :=
  ofVariables_eq_of_perm (.refl _)

end Store

namespace SavedSheet

variable {room : ℕ}

def numbers (saved : SavedSheet) : List Float := saved.slots.flatMap Variable.numbers

/-- The binds of texts stay, so that both sides unfold alike. -/
lemma ofJson?_record (version slots : Json) (savedAt text rulebook : String) :
    ofJson? (.record [("version", version), ("saved_at", .text savedAt), ("sheet_id", .text text),
      ("rulebook", .text rulebook), ("variables", slots)]) =
      (Json.nat? UInt32.size version).bind fun version => (some savedAt).bind fun savedAt =>
        (some text).bind fun text => (SheetId.parse? text).bind fun sheet =>
          (some rulebook).bind fun rulebook => (Json.listOf? Variable.ofJson? slots).bind
            fun slots => some ⟨version, savedAt, sheet, rulebook, slots⟩ := rfl

lemma restores {saved : SavedSheet} (hversion : saved.version = saveVersion)
    (hslots : ∀ v ∈ saved.slots, v.Lawful) (h : ∀ x ∈ saved.numbers, ReadsBack x) :
    Restores ofJson? (room + 14) saved.toJson saved := by
  have hlist : Restores (Json.listOf? Variable.ofJson?) (room + 13)
      (.list (saved.slots.map Variable.toJson)) saved.slots :=
    Json.restores_list fun v hv =>
      Variable.restores (hslots v hv) fun x hx => h x (List.mem_flatMap.2 ⟨v, hv, hx⟩)
  constructor
  · refine .record ?_
    simp only [List.forall_mem_cons]
    refine ⟨?_, .text _ saved.savedAt, .text _ saved.sheet.text, .text _ saved.rulebook,
      hlist.writable, by simp⟩
    rw [hversion]
    exact .number _ (Json.number?_whole ⟨by decide, by decide⟩)
  · have hnat : Json.nat? UInt32.size (.whole saved.version) = some saved.version := by
      rw [hversion]
      rfl
    rw [toJson, ofJson?_record, hnat, hlist.read]
    simp only [Option.bind_some, SheetId.parse?_text]

end SavedSheet

namespace Sheet

def numbers (s : Sheet) : List Float := s.store.slots.toList.flatMap Variable.numbers

lemma ofText_text {s : Sheet} (hs : ∀ v ∈ s.store.slots, v.Lawful)
    (h : ∀ x ∈ s.numbers, ReadsBack x) (savedAt : String) :
    SavedSheet.ofText (some (SavedSheet.ofSheet savedAt s).text) =
      .ok (SavedSheet.ofSheet savedAt s) := by
  have hrestores : Restores SavedSheet.ofJson? (113 + 14) (SavedSheet.ofSheet savedAt s).toJson
      (SavedSheet.ofSheet savedAt s) := SavedSheet.restores rfl hs h
  have hjson : readJson (some (SavedSheet.ofSheet savedAt s).text) =
      .ok (SavedSheet.ofSheet savedAt s).toJson := by
    rw [readJson, SavedSheet.text, Json.parse?_pretty_self hrestores.writable]
  have hversion : (SavedSheet.ofSheet savedAt s).version = saveVersion := rfl
  simp only [SavedSheet.ofText, hjson, bind, Except.bind, hrestores.read, if_pos hversion]
  rfl

end Sheet

/-- A sheet whose numbers are finite and can be read back from their text is saved and loaded
without loss: the same id, the same variables, and so under any rules the same evaluations. -/
theorem saved_sheets_restored (s : Sheet) (hs : ∀ v ∈ s.store.slots, v.Made)
    (hfinite : ∀ x ∈ s.numbers, x.isFinite = true)
    (hprinted : ∀ x ∈ s.numbers,
      Json.Token.number? (Json.floatLayout.text x).toList = some (.float x)) (savedAt : String) :
    ∃ saved, SavedSheet.ofText (some (SavedSheet.ofSheet savedAt s).text) = .ok saved ∧
      ∀ rulebook, ∃ t, saved.toSheet rulebook = .ok t ∧ t.id = s.id ∧ t.store = s.store ∧
        ∀ (limits : Limits) (call : Call) (f : Frame),
          (⟨t.rulebook, t.store, limits⟩ : Context).take call f =
            (⟨rulebook, s.store, limits⟩ : Context).take call f := by
  refine ⟨SavedSheet.ofSheet savedAt s, ?_, fun rulebook => ?_⟩
  · exact Sheet.ofText_text (fun v hv => (hs v hv).lawful)
      (fun x hx => ⟨hfinite x hx, hprinted x hx⟩) savedAt
  · refine ⟨{ rulebook, store := s.store, id := s.id }, ?_, rfl, rfl, fun _ _ _ => rfl⟩
    simp only [SavedSheet.toSheet, SavedSheet.ofSheet, Store.ofVariables_toList]
    rfl

namespace Saving

def strike : Dice.Roll where
  quantities := ⟨[⟨6, 2⟩, ⟨20, 1⟩], by decide⟩
  modifiers := ⟨[⟨-0.0, none⟩, ⟨0.5, some "blessing"⟩], by decide⟩
  name := some "strike"

def points : Variable where
  id := ⟨some "hero", "points"⟩
  label := "Lebenspunkte – \"LP\""
  description := "one line\nand another\u0001"
  tags := ⟨["body", "Ω"], by decide⟩
  setting := .number (.literal 12.25)
  history := [⟨.literal 1e22, none⟩, ⟨.program ⟨"heal", [.number (.literal (-3))]⟩, some "rest"⟩]

def hits : Variable where
  id := ⟨none, "hits"⟩
  label := "Hits"
  setting := .boolean (.program ⟨"hits",
    [.diceRoll (.literal strike), .boolean (.variable (.tag "armed")),
      .number (.entry ⟨"skills", "aim"⟩), .number (.variable (.id ⟨some "hero", "points"⟩))]⟩)

def weapon : Variable where
  id := ⟨none, "weapon"⟩
  label := "Weapon"
  setting := .diceRoll (.literal strike)

def sheet : Sheet where
  rulebook := { name := "house rules" }
  store := ⟨⟨[hits, weapon, points], by decide⟩⟩
  id := ⟨0x0123456789abcdef0123456789abcdef⟩

lemma sheet_made : ∀ v ∈ sheet.store.slots, v.Made := by
  change ∀ v ∈ [hits, weapon, points], v.Made
  simp only [List.forall_mem_cons]
  refine ⟨.new hits.id hits.label hits.setting, .new weapon.id weapon.label weapon.setting, ?_,
    by simp⟩
  have hnew := Variable.Made.new points.id points.label points.setting
  exact .keep (hnew.describe points.id points.label points.description points.tags) rfl

lemma sheet_finite : ∀ x ∈ sheet.numbers, x.isFinite = true := by decide +kernel

lemma sheet_printed : ∀ x ∈ sheet.numbers,
    Json.Token.number? (Json.floatLayout.text x).toList = some (.float x) := by decide +kernel

end Saving

open Saving in
theorem saved_sheets_restored_hero :
    (∀ v ∈ sheet.store.slots, v.Made) ∧ (∀ x ∈ sheet.numbers, x.isFinite = true) ∧
      (∀ x ∈ sheet.numbers,
        Json.Token.number? (Json.floatLayout.text x).toList = some (.float x)) ∧
      ∃ saved, SavedSheet.ofText (some (SavedSheet.ofSheet "0" sheet).text) = .ok saved ∧
        ∀ rulebook, ∃ t, saved.toSheet rulebook = .ok t ∧ t.id = sheet.id ∧ t.store = sheet.store ∧
          ∀ (limits : Limits) (call : Call) (f : Frame),
            (⟨t.rulebook, t.store, limits⟩ : Context).take call f =
              (⟨rulebook, sheet.store, limits⟩ : Context).take call f :=
  ⟨sheet_made, sheet_finite, sheet_printed,
    saved_sheets_restored sheet sheet_made sheet_finite sheet_printed "0"⟩

end Tabletop
