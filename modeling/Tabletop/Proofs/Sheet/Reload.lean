import Tabletop.Proofs.Document.WellFormed
import Tabletop.Proofs.Json.Fields
import Tabletop.Proofs.Sheet.History
import Tabletop.Proofs.Sheet.Save
import Tabletop.Proofs.Stored.Reread

namespace Tabletop

open Sheet (Change)

lemma Variable.map_id_eq {vs ws : List Variable} (h : List.Forall₂ (fun v w => w.id = v.id) vs ws) :
    ws.map id = vs.map id := by
  induction h with
  | nil => rfl
  | cons hid _ ih => rw [List.map_cons, List.map_cons, hid, ih]

namespace Store

lemma exists_ofVariables {s : Store} {vs : List Variable} (h : vs.map Variable.id = s.ids) :
    ∃ t, ofVariables vs = .ok t ∧ t.ids = s.ids := by
  have hids : s.ids.Pairwise fun a b => compare a.key b.key = .lt :=
    List.pairwise_map.2 s.slots.increasing
  rw [← h, List.pairwise_map] at hids
  let t : Store := ⟨⟨vs, hids⟩⟩
  exact ⟨t, ofVariables_toList t, h⟩

end Store

namespace SavedSheet

lemma made_of_ofJson? {j : Json} {saved : SavedSheet} (h : ofJson? j = some saved) :
    ∀ v ∈ saved.slots, v.Made := by
  intro v hv
  simp only [ofJson?, bind, Option.bind_eq_some_iff] at h
  obtain ⟨fields, _, version, _, savedAt, _, text, _, sheet, _, rulebook, _, slots, hslots, h⟩ := h
  cases h
  obtain ⟨j, _, hj⟩ := Option.bind_eq_some_iff.1 hslots
  obtain ⟨_, _, i, _, hi⟩ := Json.exists_of_mem_listOf? hj hv
  exact .load hi

lemma made_of_ofText {text : Option String} {saved : SavedSheet} (h : ofText text = .ok saved) :
    ∀ v ∈ saved.slots, v.Made := by
  rw [ofText, bind_eq_ok] at h
  obtain ⟨j, _, h⟩ := h
  split at h
  · cases h
  · rename_i hj
    split at h
    · cases h
      exact made_of_ofJson? hj
    · cases h

variable {room : ℕ}

lemma rereads {saved : SavedSheet} (hversion : saved.version = saveVersion)
    (hslots : ∀ v ∈ saved.slots, v.Lawful) :
    Json.Rereads ofJson? (room + 14) saved.toJson saved.numbers fun t =>
      t.version = saveVersion ∧ t.sheet = saved.sheet ∧
        t.slots.map Variable.id = saved.slots.map Variable.id := by
  have hlist : Json.Rereads (Json.listOf? Variable.ofJson?) (room + 13)
      (.list (saved.slots.map Variable.toJson)) saved.numbers _ :=
    Json.rereads_list fun v hv => Variable.rereads (hslots v hv)
  have hone : Json.Token.number? (Json.Print.numberText (.whole saved.version)).toList =
      some (id (.whole saved.version)) := by
    rw [hversion]
    exact Json.number?_whole ⟨by decide, by decide⟩
  have hnat : Json.Writable id (room + 13) (.whole saved.version) := .number _ hone
  have hread : Json.nat? UInt32.size (.whole saved.version) = some saveVersion := by
    rw [hversion]
    rfl
  refine hlist.wrap (⟨saveVersion, saved.savedAt, saved.sheet, saved.rulebook, ·⟩)
    (fun _ hids => ⟨rfl, rfl, Variable.map_id_eq hids⟩) (.record ?_) ?_
  · simp only [List.forall_mem_cons]
    exact ⟨hnat.rereads, .text _ saved.savedAt, .text _ saved.sheet.text, .text _ saved.rulebook,
      hlist.writable, by simp⟩
  · have hrecord := ofJson?_record (Json.whole saved.version).reread
      (Json.list (saved.slots.map Variable.toJson)).reread saved.savedAt saved.sheet.text
      saved.rulebook
    rw [hnat.reread_eq, hread] at hrecord
    simp only [Option.bind_some, SheetId.parse?_text] at hrecord
    rw [← hrecord, ← hnat.reread_eq]
    rfl

lemma ofText_text {saved : SavedSheet}
    (h : Json.Writable Json.Number.reread Json.Progress.deepest saved.toJson) :
    ofText (some saved.text) =
      match ofJson? saved.toJson.reread with
      | none => .error .malformed
      | some t => if t.version = saveVersion then .ok t else .error (.version t.version) := by
  have hjson : readJson (some saved.text) = .ok saved.toJson.reread := by
    rw [readJson, text, Json.parse?_pretty h]
    rfl
  rw [ofText, hjson]
  rfl

end SavedSheet

namespace Sheet

variable {s t : Sheet} {x : Change} {r : Except RuleError Unit}

/-- What has been loaded, from a document or from a saved sheet. -/
inductive Loaded : Sheet → Prop
  | document {rulebook : Rulebook} {text : Option String} {s : Sheet} :
      ofText rulebook text = .ok s → Loaded s
  | saved {rulebook : Rulebook} {text : Option String} {saved : SavedSheet} {s : Sheet} :
      SavedSheet.ofText text = .ok saved → saved.toSheet rulebook = .ok s → Loaded s

lemma Loaded.exists_variables (h : s.Loaded) :
    ∃ vs, (∀ v ∈ vs, v.Made) ∧ Store.ofVariables vs = .ok s.store := by
  cases h with
  | document h =>
    rw [ofText, bind_eq_ok] at h
    obtain ⟨j, _, h⟩ := h
    obtain ⟨vs, hvs, h⟩ := bind_eq_ok.1 h
    obtain ⟨store, hstore, h⟩ := bind_eq_ok.1 h
    cases h
    refine ⟨vs, fun v hv => ?_, mapError_eq_ok.1 hstore⟩
    obtain ⟨m, hm⟩ := Variable.exists_of_mem_decodeAll (mapError_eq_ok.1 hvs) hv
    exact .decode hm
  | @saved rulebook text saved s hsaved h =>
    obtain ⟨store, hstore, h⟩ := bind_eq_ok.1 h
    cases h
    exact ⟨saved.slots, SavedSheet.made_of_ofText hsaved, mapError_eq_ok.1 hstore⟩

lemma Loaded.lawful (h : s.Loaded) : s.store.Lawful := by
  obtain ⟨vs, hvs, hstore⟩ := h.exists_variables
  exact Store.lawful_of_ofVariables (fun v hv => (hvs v hv).lawful) hstore

lemma lawful_make (hs : s.store.Lawful) (hinserted : ∀ v, x = .insert v → v.Lawful)
    (hgains : x = .activate → ∀ m ∈ s.rulebook.mechanics, ∀ v ∈ m.gains, v.Lawful)
    (h : (s.make x).Ends (r, t)) : t.store.Lawful ∧ t.rulebook = s.rulebook := by
  rcases make_cases h with ⟨f, store, hf, hstore, _, rfl⟩ | ⟨_, _, rfl⟩ | ⟨hx, _, vs, hvs, rfl⟩
  · exact ⟨(kept_update hs hinserted hf hstore).1, rfl⟩
  · exact ⟨hs, rfl⟩
  · refine ⟨(Store.kept_gains hs fun v hv => ?_).1, rfl⟩
    obtain ⟨m, hm, hv⟩ := hvs v hv
    exact hgains hx m hm v hv

lemma lawful_makeAll {xs : List Change} (hs : s.store.Lawful)
    (hinserted : ∀ v, .insert v ∈ xs → v.Lawful)
    (hgains : .activate ∈ xs → ∀ m ∈ s.rulebook.mechanics, ∀ v ∈ m.gains, v.Lawful)
    (h : (s.makeAll xs).Ends t) : t.store.Lawful := by
  induction xs generalizing s with
  | nil =>
    cases h
    exact hs
  | cons x xs ih =>
    rw [makeAll, Dice.Plan.ends_bind] at h
    obtain ⟨⟨r, u⟩, hu, h⟩ := h
    obtain ⟨hlawful, hrules⟩ := lawful_make hs (fun v hv => hinserted v (by simp [hv]))
      (fun hx => hgains (by simp [hx])) hu
    refine ih hlawful (fun v hv => hinserted v (by simp [hv])) (fun hx => ?_) h
    -- no change touches the rules, so the mechanics declare what they did before
    rw [hrules]
    exact hgains (by simp [hx])

lemma rereads (hs : s.store.Lawful) (savedAt : String) :
    Json.Rereads SavedSheet.ofJson? (113 + 14) (SavedSheet.ofSheet savedAt s).toJson s.numbers
      fun saved => saved.version = saveVersion ∧ saved.sheet = s.id ∧
        saved.slots.map Variable.id = s.store.ids :=
  SavedSheet.rereads rfl hs

lemma ofText_text_malformed (hs : s.store.Lawful) {x : Float} (hx : x ∈ s.numbers)
    (h : x.isFinite = false) (savedAt : String) :
    SavedSheet.ofText (some (SavedSheet.ofSheet savedAt s).text) = .error .malformed := by
  have hrereads := rereads hs savedAt
  rw [SavedSheet.ofText_text hrereads.writable, hrereads.lost x hx h]

lemma exists_ofText_text (hs : s.store.Lawful) (h : ∀ x ∈ s.numbers, x.isFinite = true)
    (savedAt : String) :
    ∃ saved, SavedSheet.ofText (some (SavedSheet.ofSheet savedAt s).text) = .ok saved ∧
      saved.sheet = s.id ∧ saved.slots.map Variable.id = s.store.ids := by
  have hrereads := rereads hs savedAt
  obtain ⟨saved, hsaved, hversion, hkept⟩ := hrereads.kept h
  refine ⟨saved, ?_, hkept⟩
  rw [SavedSheet.ofText_text hrereads.writable, hsaved]
  exact if_pos hversion

end Sheet

/-- The save file of a sheet that has been loaded and played can be loaded if all numbers of the
sheet are finite, and the same sheet with the same variables is rebuilt, though a number need not be
read back to its last digit. If one is not finite, the file cannot be loaded. -/
theorem save_files_load_if_finite {start s : Sheet} (hstart : start.Loaded) {changes : List Change}
    (hinserted : ∀ v, .insert v ∈ changes → v.Made)
    (hgains : .activate ∈ changes → ∀ m ∈ start.rulebook.mechanics, ∀ v ∈ m.gains, v.Made)
    (hs : (start.makeAll changes).Ends s) (savedAt : String) :
    ((∀ x ∈ s.numbers, x.isFinite = true) →
      ∃ saved, SavedSheet.ofText (some (SavedSheet.ofSheet savedAt s).text) = .ok saved ∧
        ∀ rulebook, ∃ t, saved.toSheet rulebook = .ok t ∧ t.id = s.id ∧ t.store.ids = s.store.ids) ∧
    ((∃ x ∈ s.numbers, x.isFinite = false) →
      SavedSheet.ofText (some (SavedSheet.ofSheet savedAt s).text) = .error .malformed) := by
  have hlawful : s.store.Lawful :=
    Sheet.lawful_makeAll hstart.lawful (fun v hv => (hinserted v hv).lawful)
      (fun hx m hm v hv => (hgains hx m hm v hv).lawful) hs
  refine ⟨fun hfinite => ?_, fun ⟨x, hx, h⟩ => Sheet.ofText_text_malformed hlawful hx h savedAt⟩
  obtain ⟨saved, hsaved, hid, hids⟩ := Sheet.exists_ofText_text hlawful hfinite savedAt
  refine ⟨saved, hsaved, fun rulebook => ?_⟩
  obtain ⟨store, hstore, hstoreIds⟩ := Store.exists_ofVariables hids
  refine ⟨{ rulebook, store, id := saved.sheet }, ?_, hid, hstoreIds⟩
  rw [SavedSheet.toSheet, hstore]
  rfl

namespace History

def healthy : Sheet where
  rulebook := {}
  store := ⟨⟨[points 8 [rolled]], by decide⟩⟩

def assigned (x : Float) : Sheet where
  rulebook := {}
  store := ⟨⟨[points x [rolled, ⟨.literal x, none⟩]], List.pairwise_singleton _ _⟩⟩

lemma healthy_finite : ∀ x ∈ healthy.numbers, x.isFinite = true := by decide +kernel

lemma healthy_printed : ∀ x ∈ healthy.numbers,
    Json.Token.number? (Json.floatLayout.text x).toList = some (.float x) := by decide +kernel

lemma healthy_loaded : healthy.Loaded := by
  have hlawful : healthy.store.Lawful := by
    intro v hv
    obtain rfl := List.mem_singleton.1 hv
    exact points_made.lawful
  have htext := Sheet.ofText_text hlawful
    (fun x hx => ⟨healthy_finite x hx, healthy_printed x hx⟩) "0"
  have hsheet : (SavedSheet.ofSheet "0" healthy).toSheet {} = .ok healthy := by
    simp only [SavedSheet.toSheet, SavedSheet.ofSheet, Store.ofVariables_toList]
    rfl
  exact .saved htext hsheet

lemma assigned_of_healthy (x : Float) :
    (healthy.makeAll [.assign hp x none]).Ends (assigned x) := by
  have hstore : healthy.store.assign hp x none = .ok (assigned x).store := by
    refine Store.assign_eq_ok.2 ⟨points 8 [rolled], rfl, rfl, congrArg Store.mk (Sorted.ext ?_)⟩
    simp [healthy, Sorted.replace, Sorted.replaceList, Variable.order_eq_iff.2, points]
  rw [Sheet.makeAll, Sheet.make_assign, Sheet.edit, hstore]
  exact Dice.Plan.ends_done.2 rfl

def infinity : Float := .ofBits 0x7ff0000000000000

lemma infinity_mem : infinity ∈ (assigned infinity).numbers := .head _

lemma assigned_lawful (x : Float) : (assigned x).store.Lawful := by
  intro v hv
  obtain rfl := List.mem_singleton.1 hv
  exact Variable.lawful_of_number rfl

end History

open History in
theorem save_files_load_if_finite_assigned :
    healthy.Loaded ∧
    (∀ v, Change.insert v ∈ [.assign hp 5 none] → v.Made) ∧
    (Change.activate ∈ [.assign hp 5 none] →
      ∀ m ∈ healthy.rulebook.mechanics, ∀ v ∈ m.gains, v.Made) ∧
    (healthy.makeAll [.assign hp 5 none]).Ends (assigned 5) ∧
    ∃ saved, SavedSheet.ofText (some (SavedSheet.ofSheet "0" (assigned 5)).text) = .ok saved ∧
      ∀ rulebook, ∃ t, saved.toSheet rulebook = .ok t ∧ t.id = (assigned 5).id ∧
        t.store.ids = (assigned 5).store.ids := by
  have hinserted : ∀ v, Change.insert v ∈ [.assign hp 5 none] → v.Made := by simp
  have hgains : Change.activate ∈ [.assign hp 5 none] →
      ∀ m ∈ healthy.rulebook.mechanics, ∀ v ∈ m.gains, v.Made := by simp
  have hfinite : ∀ x ∈ (assigned 5).numbers, x.isFinite = true := by decide +kernel
  have hends := assigned_of_healthy 5
  exact ⟨healthy_loaded, hinserted, hgains, hends,
    (save_files_load_if_finite healthy_loaded hinserted hgains hends "0").1 hfinite⟩

open History in
theorem save_file_lost : ∃ start s : Sheet, start.Loaded ∧
    (start.makeAll [.assign hp infinity none]).Ends s ∧
      SavedSheet.ofText (some (SavedSheet.ofSheet "0" s).text) = .error .malformed :=
  ⟨healthy, assigned infinity, healthy_loaded, assigned_of_healthy infinity,
    Sheet.ofText_text_malformed (assigned_lawful infinity) infinity_mem (by decide +kernel) "0"⟩

end Tabletop
