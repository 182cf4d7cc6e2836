import Tabletop.Json.Parse
import Tabletop.Proofs.Json.Number
import Tabletop.Proofs.Json.Text

namespace Tabletop

namespace Json

open Token (scan inWord isBlank mark?)
open Progress (step)

def readFrom (p : Progress) (cs : List Char) : Option Progress :=
  (scan cs).bind fun tokens => tokens.foldlM step p

lemma parse?_eq (text : String) :
    parse? text = (readFrom (.value []) text.toList).bind Progress.result? := by
  rw [parse?, readFrom]
  cases scan text.toList <;> rfl

variable {p : Progress} {c : Char} {rest : List Char} {t : Token}

lemma readFrom_nil (p : Progress) : readFrom p [] = some p := by
  rw [readFrom, scan]
  rfl

lemma readFrom_of_scan {cs : List Char} (h : scan cs = (scan rest).map (t :: ·)) :
    readFrom p cs = (step p t).bind fun q => readFrom q rest := by
  simp only [readFrom, h]
  cases scan rest with
  | none => cases step p t <;> rfl
  | some tokens => rfl

lemma readFrom_blank (h : isBlank c = true) : readFrom p (c :: rest) = readFrom p rest := by
  rw [readFrom, scan, if_pos h]
  rfl

lemma readFrom_blanks {cs : List Char} (h : ∀ c ∈ cs, isBlank c = true) :
    readFrom p (cs ++ rest) = readFrom p rest := by
  induction cs with
  | nil => rfl
  | cons c cs ih =>
    rw [List.cons_append, readFrom_blank (h c (by simp)), ih fun d hd => h d (by simp [hd])]

lemma readFrom_mark (h : mark? c = some t) :
    readFrom p (c :: rest) = (step p t).bind fun q => readFrom q rest := by
  have hblank : ¬ isBlank c = true := by
    simp only [isBlank, decide_eq_true_eq]
    rintro (rfl | rfl | rfl | rfl) <;> cases h
  refine readFrom_of_scan ?_
  rw [scan, if_neg hblank, h]

lemma readFrom_quoted (s : String) :
    readFrom p ((Print.quoted s).toList ++ rest) =
      (step p (.text s)).bind fun q => readFrom q rest := by
  refine readFrom_of_scan ?_
  have htext : (Print.quoted s).toList ++ rest =
      '"' :: (s.toList.flatMap Print.escaped ++ '"' :: rest) := by
    simp [Print.quoted]
  rw [htext, scan, if_neg (by decide)]
  simp only [show mark? '"' = none from rfl, if_pos]
  split
  · rename_i h
    rw [textUnits_quoted] at h
    cases h
  · rename_i h
    rw [textUnits_quoted] at h
    cases h
    rw [joinUnits_toNat]
    simp only [Option.bind_eq_bind, Option.bind_some, String.ofList_toList]
    cases scan rest <;> rfl

def Delimited (rest : List Char) : Prop := ∀ c ∈ rest.head?, inWord c = false

lemma Delimited.takeWhile (h : Delimited rest) : rest.takeWhile inWord = [] := by
  cases rest with
  | nil => rfl
  | cons c rest => rw [List.takeWhile_cons_of_neg (by simp [h c rfl])]

lemma Delimited.dropWhile (h : Delimited rest) : rest.dropWhile inWord = rest := by
  cases rest with
  | nil => rfl
  | cons c rest => rw [List.dropWhile_cons_of_neg (by simp [h c rfl])]

lemma readFrom_word {w : List Char} {j : Json} (hw : Token.word? w = some j)
    (hin : ∀ c ∈ w, inWord c = true) (hrest : Delimited rest) :
    readFrom p (w ++ rest) = (step p (.word j)).bind fun q => readFrom q rest := by
  refine readFrom_of_scan ?_
  cases w with
  | nil => cases hw
  | cons c w =>
    obtain ⟨hc, hin⟩ := List.forall_mem_cons.1 hin
    obtain ⟨hblank, hmark, hquote⟩ : ¬ isBlank c = true ∧ mark? c = none ∧ c ≠ '"' := by
      simpa [inWord, Option.isNone_iff_eq_none] using hc
    rw [List.cons_append, scan, if_neg hblank, hmark]
    simp only [if_neg hquote]
    rw [List.takeWhile_append_of_pos hin, List.dropWhile_append_of_pos hin, hrest.takeWhile,
      hrest.dropWhile, List.append_nil, hw]
    cases scan rest <;> rfl

lemma word?_number {n : Number} {w : List Char} (h : Token.number? w = some n) :
    Token.word? w = some (.number n) := by
  have hne (v : List Char) (hv : Token.number? v = none) : w ≠ v := by
    rintro rfl
    rw [h] at hv
    cases hv
  rw [Token.word?, if_neg (hne _ (by decide)), if_neg (hne _ (by decide)),
    if_neg (hne _ (by decide)), h]
  rfl

/-- Values that can be read where they are written, with room for at most so many levels of
containers; in place of each number `f` of it is read. -/
inductive Writable (f : Number → Number) : ℕ → Json → Prop
  | null (room : ℕ) : Writable f room .null
  | bool (room : ℕ) (b : Bool) : Writable f room (.bool b)
  | number (room : ℕ) {n : Number} : Token.number? (Print.numberText n).toList = some (f n) →
      Writable f room (.number n)
  | text (room : ℕ) (s : String) : Writable f room (.text s)
  | list {room : ℕ} {items : List Json} : (∀ j ∈ items, Writable f room j) →
      Writable f (room + 1) (.list items)
  | record {room : ℕ} {fields : List (String × Json)} : (∀ g ∈ fields, Writable f room g.2) →
      Writable f (room + 1) (.record fields)

mutual

def mapNumbers (f : Number → Number) : Json → Json
  | .number n => .number (f n)
  | .list items => .list (mapItems f items)
  | .record fields => .record (mapFields f fields)
  | .null => .null
  | .bool b => .bool b
  | .text s => .text s

def mapItems (f : Number → Number) : List Json → List Json
  | [] => []
  | j :: js => mapNumbers f j :: mapItems f js

def mapFields (f : Number → Number) : List (String × Json) → List (String × Json)
  | [] => []
  | (k, j) :: rest => (k, mapNumbers f j) :: mapFields f rest

end

section Numbers

variable {f g : Number → Number}

lemma mapItems_eq_map (f : Number → Number) (items : List Json) :
    mapItems f items = items.map (mapNumbers f) := by
  induction items with
  | nil => rfl
  | cons j js ih => rw [mapItems, ih, List.map_cons]

lemma mapFields_eq_map (f : Number → Number) (fields : List (String × Json)) :
    mapFields f fields = fields.map fun g => (g.1, mapNumbers f g.2) := by
  induction fields with
  | nil => rfl
  | cons g gs ih =>
    obtain ⟨k, j⟩ := g
    rw [mapFields, ih, List.map_cons]

lemma Writable.mono {room : ℕ} {j : Json} (h : Writable f room j)
    (hg : ∀ n, Token.number? (Print.numberText n).toList = some (f n) → g n = f n) :
    Writable g room j := by
  induction h with
  | null room => exact .null room
  | bool room b => exact .bool room b
  | number room hn => exact .number room (hg _ hn ▸ hn)
  | text room s => exact .text room s
  | list h ih => exact .list ih
  | record h ih => exact .record ih

lemma Writable.mapNumbers_eq {room : ℕ} {j : Json} (h : Writable f room j)
    (hg : ∀ n, Token.number? (Print.numberText n).toList = some (f n) → g n = n) :
    j.mapNumbers g = j := by
  induction h with
  | null | bool | text => rfl
  | number room hn => exact congrArg Json.number (hg _ hn)
  | list h ih =>
    rw [mapNumbers, mapItems_eq_map]
    exact congrArg Json.list ((List.map_congr_left ih).trans (List.map_id' _))
  | record h ih =>
    rw [mapNumbers, mapFields_eq_map]
    refine congrArg Json.record ((List.map_congr_left fun g hg => ?_).trans (List.map_id' _))
    rw [ih g hg]

end Numbers

lemma blank_indent (depth : ℕ) : ∀ c ∈ (Print.indent depth).toList, isBlank c = true := by
  simp only [Print.indent, String.toList_ofList, List.forall_mem_cons]
  refine ⟨rfl, fun c hc => ?_⟩
  rw [List.eq_of_mem_replicate hc]
  rfl

lemma blank_blank : ∀ c ∈ " ".toList, isBlank c = true := by
  intro c hc
  rw [List.mem_singleton.1 hc]
  rfl

structure Style where
  gap : ℕ → String
  space : String
  blank_gap : ∀ depth, ∀ c ∈ (gap depth).toList, isBlank c = true
  blank_space : ∀ c ∈ space.toList, isBlank c = true

namespace Style

def pretty : Style := ⟨Print.indent, " ", blank_indent, blank_blank⟩

def compact : Style := ⟨fun _ => "", "", by simp, by simp⟩

variable (style : Style)

def block (left right : String) (depth : ℕ) (items : List String) : String :=
  if items.isEmpty then left ++ right
  else
    let inner := style.gap (depth + 1)
    left ++ inner ++ ("," ++ inner).intercalate items ++ style.gap depth ++ right

mutual

def write (depth : ℕ) : Json → String
  | .list items => style.block "[" "]" depth (writeItems (depth + 1) items)
  | .record fields => style.block "\x7b" "\x7d" depth (writeFields (depth + 1) fields)
  | .null => "null"
  | .bool b => if b then "true" else "false"
  | .number n => Print.numberText n
  | .text s => Print.quoted s

def writeItems (depth : ℕ) : List Json → List String
  | [] => []
  | j :: js => write depth j :: writeItems depth js

def writeFields (depth : ℕ) : List (String × Json) → List String
  | [] => []
  | (k, j) :: rest => (Print.quoted k ++ ":" ++ style.space ++ write depth j) ::
      writeFields depth rest

end

lemma writeItems_eq_map (depth : ℕ) (items : List Json) :
    style.writeItems depth items = items.map (style.write depth) := by
  induction items with
  | nil => rfl
  | cons j js ih => rw [writeItems, ih, List.map_cons]

def writeField (depth : ℕ) (field : String × Json) : String :=
  Print.quoted field.1 ++ ":" ++ style.space ++ style.write depth field.2

lemma writeFields_eq_map (depth : ℕ) (fields : List (String × Json)) :
    style.writeFields depth fields = fields.map (style.writeField depth) := by
  induction fields with
  | nil => rfl
  | cons f fs ih =>
    obtain ⟨k, j⟩ := f
    rw [writeFields, ih, List.map_cons, writeField]

lemma toList_block (left right : String) (depth : ℕ) (items : List String) :
    ∃ body, (style.block left right depth items).toList = left.toList ++ body := by
  rw [block]
  split
  · exact ⟨_, String.toList_append⟩
  · simp only [String.toList_append, List.append_assoc]
    exact ⟨_, rfl⟩

mutual

lemma write_pretty (depth : ℕ) : ∀ j : Json, pretty.write depth j = Print.pretty depth j
  | .list items => by rw [write, writeItems_pretty, Print.pretty]; rfl
  | .record fields => by rw [write, writeFields_pretty, Print.pretty]; rfl
  | .null => by rw [write, Print.pretty]
  | .bool b => by rw [write, Print.pretty]
  | .number n => by rw [write, Print.pretty]
  | .text s => by rw [write, Print.pretty]

lemma writeItems_pretty (depth : ℕ) :
    ∀ items : List Json, pretty.writeItems depth items = Print.prettyItems depth items
  | [] => rfl
  | j :: js => by rw [writeItems, write_pretty, writeItems_pretty, Print.prettyItems]

lemma writeFields_pretty (depth : ℕ) : ∀ fields : List (String × Json),
    pretty.writeFields depth fields = Print.prettyFields depth fields
  | [] => rfl
  | (k, j) :: rest => by
    have hcolon : Print.quoted k ++ ":" ++ pretty.space = Print.quoted k ++ ": " :=
      String.append_assoc ..
    rw [writeFields, write_pretty, writeFields_pretty, Print.prettyFields, hcolon]

end

lemma block_compact (left right : String) (depth : ℕ) (items : List String) :
    compact.block left right depth items = left ++ ",".intercalate items ++ right := by
  cases items with
  | nil => simp [block]
  | cons => simp [block, compact]

mutual

lemma write_compact (depth : ℕ) : ∀ j : Json, compact.write depth j = Print.compact j
  | .list items => by rw [write, writeItems_compact, block_compact, Print.compact]
  | .record fields => by rw [write, writeFields_compact, block_compact, Print.compact]
  | .null => by rw [write, Print.compact]
  | .bool b => by rw [write, Print.compact]
  | .number n => by rw [write, Print.compact]
  | .text s => by rw [write, Print.compact]

lemma writeItems_compact (depth : ℕ) :
    ∀ items : List Json, compact.writeItems depth items = Print.compactItems items
  | [] => rfl
  | j :: js => by rw [writeItems, write_compact, writeItems_compact, Print.compactItems]

lemma writeFields_compact (depth : ℕ) :
    ∀ fields : List (String × Json), compact.writeFields depth fields = Print.compactFields fields
  | [] => rfl
  | (k, j) :: rest => by
    have hcolon : Print.quoted k ++ ":" ++ compact.space = Print.quoted k ++ ":" :=
      String.append_empty
    rw [writeFields, write_compact, writeFields_compact, Print.compactFields, hcolon]

end

end Style

lemma delimited_mark (h : mark? c = some t) : Delimited (c :: rest) := by
  rintro d ⟨⟩
  simp [inWord, h]

lemma delimited_blanks {cs : List Char} (h : ∀ c ∈ cs, isBlank c = true) (hrest : Delimited rest) :
    Delimited (cs ++ rest) := by
  cases cs with
  | nil => exact hrest
  | cons c cs =>
    rintro d ⟨⟩
    simp [inWord, h c (by simp)]

def IsAtom : Json → Prop
  | .list _ | .record _ => False
  | _ => True

variable {style : Style} {f : Number → Number}

lemma readFrom_atom {room : ℕ} {j : Json} (h : Writable f room j) (hj : j.IsAtom) (depth : ℕ)
    (hrest : Delimited rest) :
    ∃ t, t ≠ .closeList ∧ (∀ σ, Progress.enter σ t = some (.complete (j.mapNumbers f) σ)) ∧
      ∀ p, readFrom p ((style.write depth j).toList ++ rest) =
        (step p t).bind fun q => readFrom q rest := by
  have hword {j : Json} {w : String} (hw : Token.word? w.toList = some j)
      (hin : ∀ c ∈ w.toList, inWord c = true) :
      ∃ t, t ≠ .closeList ∧ (∀ σ, Progress.enter σ t = some (.complete j σ)) ∧
        ∀ p, readFrom p (w.toList ++ rest) = (step p t).bind fun q => readFrom q rest :=
    ⟨.word j, by rintro ⟨⟩, fun _ => rfl, fun p => readFrom_word hw hin hrest⟩
  cases h with
  | null =>
    rw [Style.write]
    exact hword (by simp [Token.word?, mapNumbers]) (inWord_of_all (by decide))
  | bool room b =>
    rw [Style.write]
    cases b
    · exact hword (by simp [Token.word?, mapNumbers]) (inWord_of_all (by decide))
    · exact hword (by simp [Token.word?, mapNumbers]) (inWord_of_all (by decide))
  | @number _ n hn =>
    rw [Style.write]
    exact hword (word?_number hn) (inWord_numberText n)
  | text room s =>
    rw [Style.write]
    exact ⟨.text s, by rintro ⟨⟩, fun _ => rfl, fun p => readFrom_quoted s⟩
  | list | record => exact hj.elim

lemma readFrom_firstItem {room : ℕ} {j : Json} (h : Writable f room j) (depth : ℕ)
    (hrest : Delimited rest) (σ : List Context) :
    readFrom (.firstItem σ) ((style.write depth j).toList ++ rest) =
      readFrom (.value (.items [] :: σ)) ((style.write depth j).toList ++ rest) := by
  have hstep (t : Token) (ht : t ≠ .closeList) :
      step (.firstItem σ) t = step (.value (.items [] :: σ)) t := by
    cases t <;> first | rfl | exact absurd rfl ht
  by_cases hj : j.IsAtom
  · obtain ⟨t, ht, _, hread⟩ := readFrom_atom h hj depth hrest
    rw [hread, hread, hstep t ht]
  · cases h with
    | list =>
      obtain ⟨body, hbody⟩ := style.toList_block "[" "]" depth (style.writeItems (depth + 1) _)
      rw [Style.write, hbody]
      change readFrom _ ('[' :: (body ++ rest)) = readFrom _ ('[' :: (body ++ rest))
      rw [readFrom_mark rfl, readFrom_mark rfl, hstep .openList (by rintro ⟨⟩)]
    | record =>
      obtain ⟨body, hbody⟩ :=
        style.toList_block "\x7b" "\x7d" depth (style.writeFields (depth + 1) _)
      rw [Style.write, hbody]
      change readFrom _ ('\x7b' :: (body ++ rest)) = readFrom _ ('\x7b' :: (body ++ rest))
      rw [readFrom_mark rfl, readFrom_mark rfl, hstep .openRecord (by rintro ⟨⟩)]
    | null | bool | number | text => exact absurd trivial hj

section Block

variable {α : Type} {write : α → String} {before : List α → Progress}
  {after : α → List α → Progress}

lemma readFrom_separated {inner : String} (hinner : ∀ c ∈ inner.toList, isBlank c = true)
    (hcomma : ∀ a as, step (after a as) .comma = some (before (a :: as))) {a : α} {as bs : List α}
    (hfirst : ∀ rest, Delimited rest →
      readFrom p ((write a).toList ++ rest) = readFrom (after a bs) rest)
    (hitem : ∀ b ∈ as, ∀ bs rest, Delimited rest →
      readFrom (before bs) ((write b).toList ++ rest) = readFrom (after b bs) rest)
    (hrest : Delimited rest) :
    ∃ b bs', b :: bs' = (a :: as).reverse ++ bs ∧
      readFrom p ((("," ++ inner).intercalate ((a :: as).map write)).toList ++ rest) =
        readFrom (after b bs') rest := by
  induction as generalizing p a bs with
  | nil => exact ⟨a, bs, rfl, by simpa using hfirst rest hrest⟩
  | cons b as ih =>
    obtain ⟨d, ds, hds, hread⟩ :=
      ih (hitem b (by simp) (a :: bs)) (fun b hb => hitem b (by simp [hb]))
    refine ⟨d, ds, by simpa using hds, ?_⟩
    rw [← hread]
    simp only [List.map_cons, String.intercalate_cons_cons, String.toList_append, List.append_assoc]
    rw [hfirst]
    · change readFrom (after a bs) (',' :: (inner.toList ++ _)) = _
      rw [readFrom_mark rfl, hcomma, Option.bind_some, readFrom_blanks hinner]
    · exact delimited_mark (c := ',') rfl

lemma readFrom_block {left right : String} {l r : Char} {opened closed : Token} {first : Progress}
    (before : List α → Progress) (after : α → List α → Progress) (whole : List α → Progress)
    (hleft : left.toList = [l]) (hright : right.toList = [r]) (hl : mark? l = some opened)
    (hr : mark? r = some closed) (hopened : step p opened = some first)
    (hempty : step first closed = some (whole []))
    (hcomma : ∀ a as, step (after a as) .comma = some (before (a :: as)))
    (hclosed : ∀ a as, step (after a as) closed = some (whole (a :: as).reverse))
    {items : List α}
    (hfirst : ∀ a ∈ items, ∀ rest, Delimited rest →
      readFrom first ((write a).toList ++ rest) = readFrom (after a []) rest)
    (hitem : ∀ a ∈ items, ∀ as rest, Delimited rest →
      readFrom (before as) ((write a).toList ++ rest) = readFrom (after a as) rest) (depth : ℕ) :
    readFrom p ((style.block left right depth (items.map write)).toList ++ rest) =
      readFrom (whole items) rest := by
  cases items with
  | nil =>
    simp only [Style.block, List.map_nil, List.isEmpty_nil, if_pos, String.toList_append, hleft,
      hright, List.cons_append, List.nil_append]
    rw [readFrom_mark hl, hopened, Option.bind_some, readFrom_mark hr, hempty, Option.bind_some]
  | cons a as =>
    have hend : Delimited ((style.gap depth).toList ++ r :: rest) :=
      delimited_blanks (style.blank_gap depth) (delimited_mark hr)
    have hlater : ∀ b ∈ as, ∀ as rest, Delimited rest →
        readFrom (before as) ((write b).toList ++ rest) = readFrom (after b as) rest :=
      fun b hb => hitem b (List.mem_cons_of_mem a hb)
    obtain ⟨b, bs, hbs, hread⟩ := readFrom_separated (style.blank_gap (depth + 1)) hcomma
      (hfirst a List.mem_cons_self) hlater hend
    rw [List.append_nil] at hbs
    rw [List.map_cons] at hread
    simp only [Style.block, List.map_cons, List.isEmpty_cons, Bool.false_eq_true, if_false,
      String.toList_append, hleft, hright, List.cons_append, List.nil_append, List.append_assoc]
    rw [readFrom_mark hl, hopened, Option.bind_some, readFrom_blanks (style.blank_gap _), hread,
      readFrom_blanks (style.blank_gap _), readFrom_mark hr, hclosed, Option.bind_some, hbs,
      List.reverse_reverse]

end Block

lemma readFrom_write (style : Style) {room : ℕ} {j : Json} (h : Writable f room j) (depth : ℕ)
    (σ : List Context) (hroom : σ.length + room ≤ Progress.deepest)
    (hrest : Delimited rest) :
    readFrom (.value σ) ((style.write depth j).toList ++ rest) =
      readFrom (.complete (j.mapNumbers f) σ) rest := by
  have hwritable := h
  induction h generalizing depth σ rest with
  | null | bool | number | text =>
    obtain ⟨t, _, henter, hread⟩ := readFrom_atom hwritable trivial depth hrest
    rw [hread, step, henter, Option.bind_some]
  | @list room items h ih =>
    have hσ : σ.length < Progress.deepest := by omega
    have hopened : step (.value σ) .openList = some (.firstItem σ) := if_pos hσ
    have hitem : ∀ j ∈ items, ∀ js rest, Delimited rest →
        readFrom (.value (.items js :: σ)) ((style.write (depth + 1) j).toList ++ rest) =
          readFrom (.complete (j.mapNumbers f) (.items js :: σ)) rest := by
      intro j hj js rest hrest
      have hroom : (Context.items js :: σ).length + room ≤ Progress.deepest := by
        simp only [List.length_cons]
        omega
      exact ih j hj (depth + 1) _ hroom hrest (h j hj)
    have hfirst : ∀ j ∈ items, ∀ rest, Delimited rest →
        readFrom (.firstItem σ) ((style.write (depth + 1) j).toList ++ rest) =
          readFrom (.complete (j.mapNumbers f) (.items [] :: σ)) rest := by
      intro j hj rest hrest
      rw [readFrom_firstItem (h j hj) (depth + 1) hrest]
      exact hitem j hj [] rest hrest
    rw [Style.write, Style.writeItems_eq_map, mapNumbers, mapItems_eq_map]
    refine readFrom_block (fun js => .value (.items (js.map (mapNumbers f)) :: σ))
      (fun j js => .complete (j.mapNumbers f) (.items (js.map (mapNumbers f)) :: σ))
      (fun js => .complete (.list (js.map (mapNumbers f))) σ) rfl rfl rfl rfl hopened rfl
      (fun _ _ => rfl) (fun j js => ?_) hfirst (fun j hj js => hitem j hj _) depth
    rw [List.map_reverse]
    rfl
  | @record room fields h ih =>
    have hσ : σ.length < Progress.deepest := by omega
    have hopened : step (.value σ) .openRecord = some (.firstKey σ) := if_pos hσ
    have hfield (p : Progress) (fs : List (String × Json))
        (hp : ∀ k, step p (.text k) = some (.colon fs k σ)) : ∀ g ∈ fields, ∀ rest, Delimited rest →
        readFrom p ((style.writeField (depth + 1) g).toList ++ rest) =
          readFrom (.complete (g.2.mapNumbers f) (.field fs g.1 :: σ)) rest := by
      intro g hg rest hrest
      simp only [Style.writeField, String.toList_append, List.append_assoc]
      rw [readFrom_quoted, hp, Option.bind_some]
      change readFrom _ (':' :: (style.space.toList ++ ((style.write _ g.2).toList ++ rest))) = _
      rw [readFrom_mark rfl, step, Option.bind_some, readFrom_blanks style.blank_space]
      have hroom : (Context.field fs g.1 :: σ).length + room ≤ Progress.deepest := by
        simp only [List.length_cons]
        omega
      exact ih g hg (depth + 1) _ hroom hrest (h g hg)
    rw [Style.write, Style.writeFields_eq_map, mapNumbers, mapFields_eq_map]
    have hfirst := hfield (.firstKey σ) [] fun _ => rfl
    have hlater : ∀ g ∈ fields, ∀ fs rest, Delimited rest →
        readFrom (.key fs σ) ((style.writeField (depth + 1) g).toList ++ rest) =
          readFrom (.complete (g.2.mapNumbers f) (.field fs g.1 :: σ)) rest :=
      fun g hg fs => hfield _ fs (fun _ => rfl) g hg
    let field (g : String × Json) := (g.1, g.2.mapNumbers f)
    refine readFrom_block (fun fs => .key (fs.map field) σ)
      (fun g fs => .complete (g.2.mapNumbers f) (.field (fs.map field) g.1 :: σ))
      (fun fs => .complete (.record (fs.map field)) σ) rfl rfl rfl rfl hopened rfl
      (fun _ _ => rfl) (fun g fs => ?_) hfirst (fun g hg fs => hlater g hg _) depth
    rw [List.map_reverse]
    rfl

lemma parse?_write {j : Json} (h : Writable f Progress.deepest j) (style : Style) :
    parse? (style.write 0 j) = some (j.mapNumbers f) := by
  have hend : Delimited [] := by rintro c ⟨⟩
  have hread := readFrom_write style h 0 [] (Nat.le_of_eq (Nat.zero_add _)) hend
  rw [List.append_nil, readFrom_nil] at hread
  rw [parse?_eq, hread]
  rfl

lemma parse?_pretty {j : Json} (h : Writable f Progress.deepest j) :
    parse? j.pretty = some (j.mapNumbers f) := by
  rw [pretty, ← Style.write_pretty]
  exact parse?_write h .pretty

lemma parse?_compact {j : Json} (h : Writable f Progress.deepest j) :
    parse? j.compact = some (j.mapNumbers f) := by
  rw [compact, ← Style.write_compact 0]
  exact parse?_write h .compact

lemma parse?_pretty_self {j : Json} (h : Writable id Progress.deepest j) :
    parse? j.pretty = some j := by
  rw [parse?_pretty h, h.mapNumbers_eq (g := id) fun _ _ => rfl]

lemma parse?_compact_self {j : Json} (h : Writable id Progress.deepest j) :
    parse? j.compact = some j := by
  rw [parse?_compact h, h.mapNumbers_eq (g := id) fun _ _ => rfl]

end Json

end Tabletop
