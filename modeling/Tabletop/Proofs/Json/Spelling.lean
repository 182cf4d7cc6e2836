import Tabletop.Proofs.Json.Parse

/-! What the text of a JSON value on one line tells of it: all but the values of the words that it
is made of. -/

namespace Tabletop

namespace Json

open Token (inWord textUnits joinUnits)

mutual

/-- The value with their texts in place of all values that hold no others. -/
def spelled : Json → Json
  | .list items => .list (spelledItems items)
  | .record fields => .record (spelledFields fields)
  | .null => .text "null"
  | .bool b => .text (if b then "true" else "false")
  | .number n => .text (Print.numberText n)
  | .text s => .text (Print.quoted s)

def spelledItems : List Json → List Json
  | [] => []
  | j :: js => spelled j :: spelledItems js

def spelledFields : List (String × Json) → List (String × Json)
  | [] => []
  | (k, j) :: rest => (k, spelled j) :: spelledFields rest

end

lemma spelledItems_eq_map (items : List Json) : spelledItems items = items.map spelled := by
  induction items with
  | nil => rfl
  | cons j js ih => rw [spelledItems, ih, List.map_cons]

lemma spelledFields_eq_map (fields : List (String × Json)) :
    spelledFields fields = fields.map fun f => (f.1, f.2.spelled) := by
  induction fields with
  | nil => rfl
  | cons f fs ih => rw [spelledFields, ih, List.map_cons]

lemma compactItems_eq_map (items : List Json) :
    Print.compactItems items = items.map Print.compact := by
  induction items with
  | nil => rfl
  | cons j js ih => rw [Print.compactItems, ih, List.map_cons]

def compactField (field : String × Json) : String :=
  Print.quoted field.1 ++ ":" ++ Print.compact field.2

lemma compactFields_eq_map (fields : List (String × Json)) :
    Print.compactFields fields = fields.map compactField := by
  induction fields with
  | nil => rfl
  | cons f fs ih => rw [Print.compactFields, ih, List.map_cons, compactField]

lemma toList_quoted (s : String) :
    (Print.quoted s).toList = '"' :: (s.toList.flatMap Print.escaped ++ ['"']) := by
  rw [Print.quoted, String.toList_ofList, List.cons_append]

variable {rest rest' : List Char}

lemma quoted_append {s t : String}
    (h : (Print.quoted s).toList ++ rest = (Print.quoted t).toList ++ rest') :
    s = t ∧ rest = rest' := by
  simp only [toList_quoted, List.cons_append, List.append_assoc, List.nil_append] at h
  have hunits := congrArg textUnits (List.cons.inj h).2
  rw [textUnits_quoted, textUnits_quoted] at hunits
  obtain ⟨hchars, hrest⟩ := Prod.mk.inj (Option.some.inj hunits)
  have hjoined := congrArg joinUnits hchars
  rw [joinUnits_toNat, joinUnits_toNat] at hjoined
  exact ⟨String.toList_inj.1 (Option.some.inj hjoined), hrest⟩

lemma word_append {v w : List Char} (hv : ∀ c ∈ v, inWord c = true) (hw : ∀ c ∈ w, inWord c = true)
    (hrest : Delimited rest) (hrest' : Delimited rest') (h : v ++ rest = w ++ rest') :
    v = w ∧ rest = rest' := by
  have htake := congrArg (List.takeWhile inWord) h
  have hdrop := congrArg (List.dropWhile inWord) h
  rw [List.takeWhile_append_of_pos hv, List.takeWhile_append_of_pos hw, hrest.takeWhile,
    hrest'.takeWhile, List.append_nil, List.append_nil] at htake
  rw [List.dropWhile_append_of_pos hv, List.dropWhile_append_of_pos hw, hrest.dropWhile,
    hrest'.dropWhile] at hdrop
  exact ⟨htake, hdrop⟩

def opening : Json → Option Char
  | .list _ => some '['
  | .record _ => some '\x7b'
  | .text _ => some '"'
  | _ => none

lemma inWord_compact {j : Json} (h : j.opening = none) :
    (Print.compact j).toList ≠ [] ∧ ∀ c ∈ (Print.compact j).toList, inWord c = true := by
  cases j with
  | null => exact ⟨by simp [Print.compact], inWord_of_all (by decide)⟩
  | bool b => cases b <;> exact ⟨by simp [Print.compact], inWord_of_all (by decide)⟩
  | number n => exact ⟨numberText_ne_nil n, inWord_numberText n⟩
  | text | list | record => cases h

lemma exists_head (j : Json) : ∃ c cs, (Print.compact j).toList = c :: cs ∧
    j.opening = if inWord c then none else some c := by
  cases hj : j.opening with
  | none =>
    obtain ⟨hne, hin⟩ := inWord_compact hj
    obtain ⟨c, cs, heq⟩ := List.exists_cons_of_ne_nil hne
    exact ⟨c, cs, heq, (if_pos (hin c (by simp [heq]))).symm⟩
  | some d =>
    cases j with
    | text s => exact ⟨'"', _, toList_quoted s, hj.symm⟩
    | list items =>
      refine ⟨'[', (",".intercalate (Print.compactItems items) ++ "]").toList, ?_, hj.symm⟩
      rw [Print.compact, String.append_assoc, String.toList_append]
      rfl
    | record fields =>
      refine ⟨'\x7b', (",".intercalate (Print.compactFields fields) ++ "\x7d").toList, ?_, hj.symm⟩
      rw [Print.compact, String.append_assoc, String.toList_append]
      rfl
    | null | bool | number => cases hj

lemma opening_eq {j k : Json}
    (h : (Print.compact j).toList ++ rest = (Print.compact k).toList ++ rest') :
    j.opening = k.opening := by
  obtain ⟨c, cs, hj, hc⟩ := exists_head j
  obtain ⟨d, ds, hk, hd⟩ := exists_head k
  rw [hj, hk] at h
  rw [hc, hd, (List.cons.inj h).1]

section Separated

variable {α β : Type} {write : α → String} {norm : α → β} {closing : Char}

def behind (write : α → String) (closing : Char) : List α → List Char
  | [] => [closing]
  | a :: as => ',' :: ((write a).toList ++ behind write closing as)

lemma toList_separated (a : α) (as : List α) :
    (",".intercalate ((a :: as).map write)).toList ++ closing :: rest =
      (write a).toList ++ (behind write closing as ++ rest) := by
  induction as generalizing a with
  | nil => simp [behind]
  | cons b as ih =>
    rw [List.map_cons, List.map_cons, String.intercalate_cons_cons]
    simp only [String.toList_append, List.append_assoc]
    rw [← List.map_cons, ih]
    simp [behind]

/-- Where a text begins with that of an item, both the item and what follows can be told. -/
def Evident (write : α → String) (norm : α → β) (a : α) : Prop :=
  ∀ b rest rest', Delimited rest → Delimited rest' →
    (write a).toList ++ rest = (write b).toList ++ rest' → norm a = norm b ∧ rest = rest'

variable (hclosing : inWord closing = false) (hcomma : closing ≠ ',')

include hclosing in
omit hcomma in
lemma delimited_behind (as : List α) : Delimited (behind write closing as ++ rest) := by
  cases as with
  | nil =>
    rintro c ⟨⟩
    exact hclosing
  | cons a as => exact delimited_mark rfl

include hclosing hcomma

lemma behind_append {as bs : List α} (h : ∀ a ∈ as, Evident write norm a)
    (heq : behind write closing as ++ rest = behind write closing bs ++ rest') :
    as.map norm = bs.map norm ∧ rest = rest' := by
  induction as generalizing bs with
  | nil =>
    cases bs with
    | nil => exact ⟨rfl, (List.cons.inj heq).2⟩
    | cons b bs => exact absurd (List.cons.inj heq).1 hcomma
  | cons a as ih =>
    cases bs with
    | nil => exact absurd (List.cons.inj heq).1.symm hcomma
    | cons b bs =>
      simp only [behind, List.cons_append, List.append_assoc] at heq
      obtain ⟨hab, heq⟩ := h a (by simp) b _ _ (delimited_behind hclosing as)
        (delimited_behind hclosing bs) (List.cons.inj heq).2
      obtain ⟨htail, hrest⟩ := ih (fun c hc => h c (by simp [hc])) heq
      exact ⟨by rw [List.map_cons, List.map_cons, hab, htail], hrest⟩

lemma separated_append (hfirst : ∀ a cs cs', (write a).toList ++ cs ≠ closing :: cs')
    {as bs : List α} (h : ∀ a ∈ as, Evident write norm a)
    (heq : (",".intercalate (as.map write)).toList ++ closing :: rest =
      (",".intercalate (bs.map write)).toList ++ closing :: rest') :
    as.map norm = bs.map norm ∧ rest = rest' := by
  cases as with
  | nil =>
    cases bs with
    | nil => exact ⟨rfl, (List.cons.inj heq).2⟩
    | cons b bs =>
      rw [toList_separated] at heq
      exact absurd heq.symm (hfirst b _ _)
  | cons a as =>
    cases bs with
    | nil =>
      rw [toList_separated] at heq
      exact absurd heq (hfirst a _ _)
    | cons b bs =>
      rw [toList_separated, toList_separated] at heq
      obtain ⟨hab, heq⟩ := h a (by simp) b _ _ (delimited_behind hclosing as)
        (delimited_behind hclosing bs) heq
      obtain ⟨htail, hrest⟩ := behind_append hclosing hcomma (fun c hc => h c (by simp [hc])) heq
      exact ⟨by rw [List.map_cons, List.map_cons, hab, htail], hrest⟩

end Separated

lemma compact_ne_closing {closing : Char} (hclosing : closing = ']' ∨ closing = '\x7d') (j : Json)
    (cs cs' : List Char) : (Print.compact j).toList ++ cs ≠ closing :: cs' := by
  obtain ⟨c, ds, hj, hc⟩ := exists_head j
  rw [hj]
  intro h
  rw [(List.cons.inj h).1] at hc
  rcases hclosing with rfl | rfl <;> cases j <;> cases hc

lemma evident_list {items : List Json} (h : ∀ j ∈ items, Evident Print.compact spelled j) :
    Evident Print.compact spelled (.list items) := by
  intro k rest rest' _ _ heq
  have hopen := opening_eq heq
  cases k with
  | list others =>
    simp only [Print.compact, compactItems_eq_map, String.toList_append, List.append_assoc] at heq
    have hbody := List.append_cancel_left heq
    obtain ⟨hitems, hrest⟩ := separated_append (by decide) (by decide)
      (compact_ne_closing (.inl rfl)) h hbody
    exact ⟨by rw [spelled, spelled, spelledItems_eq_map, spelledItems_eq_map, hitems], hrest⟩
  | null | bool | number | text | record => cases hopen

lemma evident_record {fields : List (String × Json)}
    (h : ∀ f ∈ fields, Evident Print.compact spelled f.2) :
    Evident Print.compact spelled (.record fields) := by
  intro k rest rest' _ _ heq
  have hopen := opening_eq heq
  have hfield : ∀ f ∈ fields, Evident compactField (fun f => (f.1, f.2.spelled)) f := by
    intro f hf g rest rest' hrest hrest' heq
    simp only [compactField, String.toList_append, List.append_assoc] at heq
    obtain ⟨hkey, heq⟩ := quoted_append heq
    obtain ⟨hvalue, hrest⟩ := h f hf g.2 rest rest' hrest hrest' (List.append_cancel_left heq)
    exact ⟨Prod.ext hkey hvalue, hrest⟩
  have hfirst (f : String × Json) (cs cs' : List Char) :
      (compactField f).toList ++ cs ≠ '\x7d' :: cs' := by
    simp [compactField, toList_quoted]
  cases k with
  | record others =>
    simp only [Print.compact, compactFields_eq_map, String.toList_append, List.append_assoc] at heq
    have hbody := List.append_cancel_left heq
    obtain ⟨hfields, hrest⟩ := separated_append (by decide) (by decide) hfirst hfield hbody
    exact ⟨by rw [spelled, spelled, spelledFields_eq_map, spelledFields_eq_map, hfields], hrest⟩
  | null | bool | number | text | list => cases hopen

lemma spelled_of_word {j : Json} (h : j.opening = none) : j.spelled = .text (Print.compact j) := by
  cases j with
  | null | bool | number => rw [spelled, Print.compact]
  | text | list | record => cases h

lemma evident_word {j : Json} (h : j.opening = none) : Evident Print.compact spelled j := by
  intro k rest rest' hrest hrest' heq
  have hk : k.opening = none := (opening_eq heq).symm.trans h
  obtain ⟨htext, hsame⟩ :=
    word_append (inWord_compact h).2 (inWord_compact hk).2 hrest hrest' heq
  refine ⟨?_, hsame⟩
  rw [spelled_of_word h, spelled_of_word hk, String.toList_inj.1 htext]

lemma evident_text (s : String) : Evident Print.compact spelled (.text s) := by
  intro k rest rest' _ _ heq
  have hopen := opening_eq heq
  cases k with
  | text t =>
    obtain ⟨rfl, hrest⟩ := quoted_append heq
    exact ⟨rfl, hrest⟩
  | null | bool | number | list | record => cases hopen

mutual

lemma evident : ∀ j : Json, Evident Print.compact spelled j
  | .list items => evident_list (evident_items items)
  | .record fields => evident_record (evident_fields fields)
  | .text s => evident_text s
  | .null => evident_word rfl
  | .bool _ => evident_word rfl
  | .number _ => evident_word rfl

lemma evident_items : ∀ items : List Json, ∀ j ∈ items, Evident Print.compact spelled j
  | [] => nofun
  | j :: js => List.forall_mem_cons.2 ⟨evident j, evident_items js⟩

lemma evident_fields : ∀ fields : List (String × Json), ∀ f ∈ fields,
    Evident Print.compact spelled f.2
  | [] => nofun
  | (_, j) :: rest => List.forall_mem_cons.2 ⟨evident j, evident_fields rest⟩

end

lemma spelled_of_compact {j k : Json} (h : j.compact = k.compact) : j.spelled = k.spelled := by
  have hend : Delimited [] := by rintro c ⟨⟩
  have htext : (Print.compact j).toList ++ [] = (Print.compact k).toList ++ [] :=
    congrArg (fun t : String => t.toList ++ []) h
  exact (evident j k [] [] hend hend htext).1

end Json

end Tabletop
