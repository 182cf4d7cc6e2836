import Tabletop.Proofs.Json.Readable
import Tabletop.Proofs.Stored.Variable

namespace Tabletop

open Json (Restores writable_single writable_tagged writable_optionalText)

namespace Json

/-- The number that is read from the text of a number. -/
def Number.reread (n : Number) : Number := (Token.number? (Print.numberText n).toList).getD n

def reread (j : Json) : Json := j.mapNumbers Number.reread

variable {α β : Type} {read : Json → Option α} {room : ℕ} {j : Json} {xs : List Float}
  {P : α → Prop} {Q : β → Prop}

lemma Number.reread_eq {n m : Number} (h : Token.number? (Print.numberText n).toList = some m) :
    n.reread = m := by
  rw [reread, h, Option.getD_some]

lemma Writable.reread_eq (h : Writable id room j) : j.reread = j :=
  h.mapNumbers_eq fun _ hn => Number.reread_eq hn

lemma Writable.rereads (h : Writable id room j) : Writable Number.reread room j :=
  h.mono fun _ hn => Number.reread_eq hn

/-- The JSON can be written. If these numbers are finite, something of this kind can be read from
its text, and nothing if one of them is not. -/
structure Rereads (read : Json → Option α) (room : ℕ) (j : Json) (xs : List Float)
    (P : α → Prop) : Prop where
  writable : Writable Number.reread room j
  kept : (∀ x ∈ xs, x.isFinite = true) → ∃ a, read j.reread = some a ∧ P a
  lost : ∀ x ∈ xs, x.isFinite = false → read j.reread = none

lemma Restores.rereads {a : α} (h : Restores read room j a) (ha : P a) :
    Rereads read room j [] P := by
  refine ⟨h.writable.rereads, fun _ => ⟨a, ?_, ha⟩, nofun⟩
  rw [h.writable.reread_eq, h.read]

namespace Rereads

variable {outer : Json → Option β}

lemma wrap (h : Rereads read room j xs P) (f : α → β) (hf : ∀ a, P a → Q (f a)) {k : Json}
    {room' : ℕ} (hk : Writable Number.reread room' k)
    (hread : outer k.reread = (read j.reread).bind fun a => some (f a)) :
    Rereads outer room' k xs Q := by
  refine ⟨hk, fun hfinite => ?_, fun x hx hinfinite => ?_⟩
  · obtain ⟨a, ha, hP⟩ := h.kept hfinite
    exact ⟨f a, by rw [hread, ha, Option.bind_some], hf a hP⟩
  · rw [hread, h.lost x hx hinfinite, Option.bind_none]

lemma single {key : String} (h : Rereads read room j xs P) (f : α → β)
    (hf : ∀ a, P a → Q (f a))
    (hread : ∀ k, outer (.single key k) = (read k).bind fun a => some (f a)) :
    Rereads outer (room + 1) (.single key j) xs Q :=
  h.wrap f hf (writable_single h.writable) (hread j.reread)

lemma tagged {tag content name : String} (h : Rereads read room j xs P) (f : α → β)
    (hf : ∀ a, P a → Q (f a))
    (hread : ∀ k, outer (.tagged tag content name k) = (read k).bind fun a => some (f a)) :
    Rereads outer (room + 1) (.tagged tag content name j) xs Q :=
  h.wrap f hf (writable_tagged h.writable) (hread j.reread)

end Rereads

lemma rereads_float (room : ℕ) (x : Float) : Rereads float? room (.float x) [x] fun _ => True := by
  by_cases h : x.isFinite = true
  · obtain ⟨y, hy⟩ := exists_number? h
    have hreread : (Number.float x).reread = .float y := Number.reread_eq hy
    rw [float, if_pos h]
    refine ⟨.number room (hreread ▸ hy), fun _ => ⟨y, ?_, trivial⟩, ?_⟩
    · rw [reread, mapNumbers, hreread]
      rfl
    · rw [List.forall_mem_singleton]
      intro hinfinite
      exact absurd h (Bool.eq_false_iff.1 hinfinite)
  · rw [float, if_neg h]
    refine ⟨.null room, fun hfinite => ?_, fun _ _ _ => rfl⟩
    exact absurd (hfinite x (List.mem_singleton_self x)) h

lemma mapM_eq_none {as : List α} {f : α → Option β} {a : α} (ha : a ∈ as) (h : f a = none) :
    as.mapM f = none := by
  induction as with
  | nil => cases ha
  | cons b as ih =>
    rw [List.mapM_cons]
    rcases List.mem_cons.1 ha with rfl | ha
    · rw [h]
      rfl
    · rw [ih ha]
      cases f b <;> rfl

lemma rereads_list {write : α → Json} {as : List α} {numbers : α → List Float}
    {R : α → α → Prop} (h : ∀ a ∈ as, Rereads read room (write a) (numbers a) (R a)) :
    Rereads (listOf? read) (room + 1) (.list (as.map write)) (as.flatMap numbers)
      (List.Forall₂ R as) := by
  have hlist : Json.reread (.list (as.map write)) =
      .list (as.map fun a => (write a).reread) := by
    rw [reread, mapNumbers, mapItems_eq_map, List.map_map]
    rfl
  refine ⟨.list fun j hj => ?_, fun hfinite => ?_, fun x hx hinfinite => ?_⟩
  · obtain ⟨a, ha, rfl⟩ := List.mem_map.1 hj
    exact (h a ha).writable
  · rw [hlist, listOf?]
    clear hlist
    induction as with
    | nil => exact ⟨[], rfl, .nil⟩
    | cons a as ih =>
      rw [List.flatMap_cons, List.forall_mem_append] at hfinite
      obtain ⟨b, hb, hR⟩ := (h a (by simp)).kept hfinite.1
      obtain ⟨bs, hbs, hRs⟩ := ih (fun c hc => h c (by simp [hc])) hfinite.2
      refine ⟨b :: bs, ?_, .cons hR hRs⟩
      rw [List.map_cons, List.mapM_cons, hb, hbs]
      rfl
  · obtain ⟨a, ha, hx⟩ := List.mem_flatMap.1 hx
    rw [hlist, listOf?, List.mapM_map]
    exact mapM_eq_none ha ((h a ha).lost x hx hinfinite)

end Json

open Json (Rereads)

variable {room : ℕ}

namespace Dice

lemma Modifier.rereads (m : Modifier) :
    Rereads ofJson? (room + 1) m.toJson [m.value] fun _ => True := by
  have hvalue := Json.rereads_float room m.value
  refine hvalue.wrap (Modifier.mk · m.name) (fun _ _ => trivial) (.record ?_) ?_
  · rw [List.forall_mem_cons]
    exact ⟨hvalue.writable, writable_optionalText⟩
  · rw [← ofJson?_record]
    obtain ⟨value, name⟩ := m
    cases name <;> rfl

lemma Roll.rereads (r : Roll) :
    Rereads ofJson? (room + 3) r.toJson r.numbers fun _ => True := by
  have hquantities : Restores (Json.listOf? Quantity.ofJson?) (room + 2)
      (.list (r.quantities.toList.map Quantity.toJson)) r.quantities.toList :=
    Json.restores_list fun q _ => q.restores
  have hmodifiers : Rereads (Json.listOf? Modifier.ofJson?) (room + 2)
      (.list (r.modifiers.toList.map Modifier.toJson)) (r.modifiers.toList.flatMap ([·.value])) _ :=
    Json.rereads_list fun m _ => m.rereads
  rw [numbers, List.map_eq_flatMap]
  refine hmodifiers.wrap (⟨.ofList r.quantities.toList, .ofList ·, r.name⟩) (fun _ _ => trivial)
    (.record ?_) ?_
  · rw [List.forall_mem_append]
    exact ⟨by simpa using ⟨hquantities.writable.rereads, hmodifiers.writable⟩,
      writable_optionalText⟩
  · have hread := ofJson?_record (Json.list (r.quantities.toList.map Quantity.toJson)).reread
      (Json.list (r.modifiers.toList.map Modifier.toJson)).reread r.name
    rw [hquantities.writable.reread_eq, hquantities.read, Option.bind_some] at hread
    rw [← hread, ← hquantities.writable.reread_eq]
    obtain ⟨quantities, modifiers, name⟩ := r
    cases name <;> rfl

end Dice

lemma NumberRef.rereads (r : NumberRef) :
    Rereads ofJson? (room + 3) r.toJson r.numbers fun _ => True := by
  cases r with
  | literal x =>
    exact (Json.rereads_float _ x).single NumberRef.literal (fun _ _ => trivial) fun _ => rfl
  | «variable» r => exact (restores (r := .variable r) nofun).rereads trivial
  | entry r => exact (restores (r := .entry r) nofun).rereads trivial

lemma DiceRef.rereads (r : DiceRef) :
    Rereads ofJson? (room + 4) r.toJson r.numbers fun _ => True := by
  cases r with
  | literal r => exact r.rereads.single DiceRef.literal (fun _ _ => trivial) fun _ => rfl
  | «variable» r => exact (restores (r := .variable r) nofun).rereads trivial

lemma DataRef.rereads (r : DataRef) :
    Rereads ofJson? (room + 5) r.toJson r.numbers fun _ => True := by
  cases r with
  | boolean r => exact (restores (r := .boolean r) nofun).rereads trivial
  | number r => exact r.rereads.single DataRef.number (fun _ _ => trivial) fun _ => rfl
  | diceRoll r => exact r.rereads.single DataRef.diceRoll (fun _ _ => trivial) fun _ => rfl

lemma Invocation.rereads (i : Invocation) :
    Rereads ofJson? (room + 7) i.toJson i.numbers fun _ => True := by
  have harguments : Rereads (Json.listOf? DataRef.ofJson?) (room + 6)
      (.list (i.arguments.map DataRef.toJson)) i.numbers _ :=
    Json.rereads_list fun r _ => r.rereads
  exact harguments.wrap (Invocation.mk i.program) (fun _ _ => trivial)
    (.record (by simpa using ⟨.text _ i.program, harguments.writable⟩)) rfl

lemma BooleanSetting.rereads (s : BooleanSetting) :
    Rereads ofJson? (room + 8) s.toJson s.numbers fun _ => True := by
  cases s with
  | literal b => exact (restores (s := .literal b) nofun).rereads trivial
  | program i => exact i.rereads.tagged BooleanSetting.program (fun _ _ => trivial) fun _ => rfl

lemma NumberSetting.rereads (s : NumberSetting) :
    Rereads ofJson? (room + 8) s.toJson s.numbers fun _ => True := by
  cases s with
  | literal x =>
    exact (Json.rereads_float _ x).tagged NumberSetting.literal (fun _ _ => trivial) fun _ => rfl
  | unknown => exact (restores (s := .unknown) nofun).rereads trivial
  | «variable» id => exact (restores (s := .variable id) nofun).rereads trivial
  | program i => exact i.rereads.tagged NumberSetting.program (fun _ _ => trivial) fun _ => rfl
  | entry r => exact (restores (s := .entry r) nofun).rereads trivial
  | summation id => exact (restores (s := .summation id) nofun).rereads trivial

lemma TextSetting.rereads (s : TextSetting) :
    Rereads ofJson? (room + 8) s.toJson s.numbers fun _ => True := by
  cases s with
  | literal t => exact (restores (s := .literal t) nofun).rereads trivial
  | unknown => exact (restores (s := .unknown) nofun).rereads trivial
  | entry r => exact (restores (s := .entry r) nofun).rereads trivial
  | program i => exact i.rereads.tagged TextSetting.program (fun _ _ => trivial) fun _ => rfl
  | choice id => exact (restores (s := .choice id) nofun).rereads trivial

lemma DiceSetting.rereads (s : DiceSetting) :
    Rereads ofJson? (room + 8) s.toJson s.numbers fun _ => True := by
  obtain ⟨r⟩ := s
  exact r.rereads.tagged DiceSetting.literal (fun _ _ => trivial) fun _ => rfl

lemma Setting.rereads (s : Setting) :
    Rereads ofJson? (room + 9) s.toJson s.numbers fun t => t.type = s.type := by
  cases s with
  | boolean s => exact s.rereads.single Setting.boolean (fun _ _ => rfl) fun _ => rfl
  | number s => exact s.rereads.single Setting.number (fun _ _ => rfl) fun _ => rfl
  | text s => exact s.rereads.single Setting.text (fun _ _ => rfl) fun _ => rfl
  | diceRoll s => exact s.rereads.single Setting.diceRoll (fun _ _ => rfl) fun _ => rfl

lemma Assignment.rereads (a : Assignment) :
    Rereads ofJson? (room + 9) a.toJson a.numbers fun _ => True := by
  have hsetting : Rereads NumberSetting.ofJson? (room + 8) a.setting.toJson a.numbers _ :=
    a.setting.rereads
  refine hsetting.wrap (Assignment.mk · a.description) (fun _ _ => trivial) (.record ?_) ?_
  · rw [List.forall_mem_cons]
    exact ⟨hsetting.writable, writable_optionalText⟩
  · rw [← ofJson?_record]
    obtain ⟨setting, description⟩ := a
    cases description <;> rfl

lemma rereads_history (history : List Assignment) :
    Rereads historyOfJson? (room + 11) (historyJson history)
      (history.flatMap Assignment.numbers) (List.Forall₂ (fun _ _ => True) history) := by
  have hentries : Rereads (Json.listOf? Assignment.ofJson?) (room + 10)
      (.list (history.map Assignment.toJson)) (history.flatMap Assignment.numbers) _ :=
    Json.rereads_list fun a _ => a.rereads
  exact ⟨writable_single hentries.writable, hentries.kept, hentries.lost⟩

namespace Variable

lemma withHistory?_of_type {v : Variable} {history : List Assignment}
    (h : v.type ≠ .number → history = []) :
    ∃ w, v.withHistory? history = some w ∧ w.id = v.id := by
  rw [withHistory?, if_neg]
  · exact ⟨_, rfl, rfl⟩
  · rintro ⟨htype, hne⟩
    exact hne (h htype)

lemma reread_toJson (v : Variable) : v.toJson.reread =
    .record ([("id", v.id.toJson.reread), ("label", .text v.label),
      ("description", .text v.description), ("tags", Json.reread (.list (v.tags.toList.map .text))),
      ("value", v.setting.toJson.reread)] ++
      if v.history.isEmpty then [] else [("history", (historyJson v.history).reread)]) := by
  obtain ⟨id, label, description, tags, setting, history⟩ := v
  cases history <;> rfl

lemma rereads {v : Variable} (hv : v.Lawful) :
    Rereads ofJson? (room + 12) v.toJson v.numbers fun w => w.id = v.id := by
  have hid : Restores VariableId.ofJson? (room + 11) v.id.toJson v.id := v.id.restores
  have htags : Restores (Json.listOf? Json.text?) (room + 11) (.list (v.tags.toList.map .text))
      v.tags.toList := Json.restores_list fun t _ => Json.restores_text _ t
  have hsetting : Rereads Setting.ofJson? (room + 11) v.setting.toJson v.setting.numbers _ :=
    v.setting.rereads
  have hhistory : Rereads historyOfJson? (room + 11) (historyJson v.history)
      (v.history.flatMap Assignment.numbers) _ := rereads_history v.history
  have hread : ofJson? v.toJson.reread = (Setting.ofJson? v.setting.toJson.reread).bind fun s =>
      (if v.history.isEmpty then some [] else historyOfJson? (historyJson v.history).reread).bind
        (withHistory? ⟨v.id, v.label, v.description, .ofList v.tags.toList, s, []⟩) := by
    rw [reread_toJson, ofJson?_record, hid.writable.reread_eq, hid.read, Option.bind_some,
      htags.writable.reread_eq, htags.read, Option.bind_some]
  refine ⟨.record ?_, fun hfinite => ?_, fun x hx hinfinite => ?_⟩
  · rw [List.forall_mem_append]
    constructor
    · simpa using ⟨hid.writable.rereads, .text _ v.label, .text _ v.description,
        htags.writable.rereads, hsetting.writable⟩
    · split
      · simp
      · simpa using hhistory.writable
  · rw [numbers, List.forall_mem_append] at hfinite
    obtain ⟨s, hs, htype⟩ := hsetting.kept hfinite.1
    obtain ⟨history, hhistory, hlength⟩ := hhistory.kept hfinite.2
    rw [hread, hs, Option.bind_some, hhistory]
    have hempty (h : v.history = []) : history = [] := by
      rw [h] at hlength
      exact List.forall₂_nil_left_iff.1 hlength
    have hkept : (if v.history.isEmpty then some [] else some history) = some history := by
      split
      · rw [hempty (List.isEmpty_iff.1 ‹_›)]
      · rfl
    rw [hkept, Option.bind_some]
    exact withHistory?_of_type fun hnumber => hempty (hv fun h => hnumber (htype.trans h))
  · rw [hread]
    rcases List.mem_append.1 hx with hx | hx
    · rw [hsetting.lost x hx hinfinite, Option.bind_none]
    -- a history that holds a number is not left out
    · have hne : v.history.isEmpty = false := by
        cases hv : v.history with
        | nil =>
          rw [hv] at hx
          cases hx
        | cons => rfl
      rw [hhistory.lost x hx hinfinite, hne, if_neg Bool.false_ne_true]
      cases Setting.ofJson? v.setting.toJson.reread <;> rfl

end Variable

end Tabletop
