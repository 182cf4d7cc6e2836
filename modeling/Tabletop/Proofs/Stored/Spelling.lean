import Tabletop.Proofs.Json.Spelling
import Tabletop.Proofs.Stored.Reference
import Tabletop.Rule.Summation

namespace Tabletop

namespace Json

structure Apart (xs : List Float) : Prop where
  finite : ∀ x ∈ xs, x.isFinite = true
  text : ∀ x ∈ xs, ∀ y ∈ xs, floatLayout.text x = floatLayout.text y → x = y

variable {xs : List Float}

lemma Apart.eq (h : Apart xs) {x y : Float} (hx : x ∈ xs) (hy : y ∈ xs)
    (heq : (float x).spelled = (float y).spelled) : x = y := by
  rw [float, float, if_pos (h.finite x hx), if_pos (h.finite y hy), spelled, spelled] at heq
  exact h.text x hx y hy (Json.text.inj heq)

@[simp]
lemma quoted_inj {s t : String} : Print.quoted s = Print.quoted t ↔ s = t := by
  refine ⟨fun h => ?_, fun h => h ▸ rfl⟩
  have htext : (Print.quoted s).toList ++ [] = (Print.quoted t).toList ++ [] := by rw [h]
  exact (quoted_append htext).1

lemma int32_inj {m n : Int32} (h : (whole m.toInt).spelled = (whole n.toInt).spelled) : m = n := by
  have htext : Print.numberText (.whole m.toInt) = Print.numberText (.whole n.toInt) :=
    Json.text.inj h
  have hread (k : Int32) :
      Token.number? (Print.numberText (.whole k.toInt)).toList = some (.whole k.toInt) := by
    cases (restores_int32 0 k).writable
    assumption
  have hsame := hread m
  rw [htext, hread n] at hsame
  exact Int32.toInt_inj.1 (Number.whole.inj (Option.some.inj hsame)).symm

lemma list_inj {α : Type} {write : α → Json} {as bs : List α}
    (h : ∀ a ∈ as, ∀ b ∈ bs, (write a).spelled = (write b).spelled → a = b)
    (heq : (Json.list (as.map write)).spelled = (Json.list (bs.map write)).spelled) : as = bs := by
  rw [spelled, spelled, spelledItems_eq_map, spelledItems_eq_map] at heq
  replace heq := Json.list.inj heq
  induction as generalizing bs with
  | nil =>
    cases bs with
    | nil => rfl
    | cons b bs => cases heq
  | cons a as ih =>
    cases bs with
    | nil => cases heq
    | cons b bs =>
      obtain ⟨hab, htail⟩ := List.cons.inj heq
      rw [h a (by simp) b (by simp) hab,
        ih (fun c hc d hd => h c (by simp [hc]) d (by simp [hd])) htail]

@[simp]
lemma spelled_text (s : String) : (Json.text s).spelled = .text (Print.quoted s) := rfl

@[simp]
lemma spelled_record (fields : List (String × Json)) :
    (Json.record fields).spelled = .record (fields.map fun f => (f.1, f.2.spelled)) := by
  rw [spelled, spelledFields_eq_map]

lemma optionalText_inj {key : String} {s t : Option String}
    (h : (optionalField key .text s).map (fun f => (f.1, f.2.spelled)) =
      (optionalField key .text t).map fun f => (f.1, f.2.spelled)) : s = t := by
  cases s <;> cases t <;> simp_all [optionalField]

end Json

open Json (Apart)

variable {xs : List Float}

namespace Dice

lemma Quantity.eq_of_spelled {q r : Quantity} (h : q.toJson.spelled = r.toJson.spelled) :
    q = r := by
  obtain ⟨sides, count⟩ := q
  obtain ⟨sides', count'⟩ := r
  simp only [toJson, Json.spelled_record, List.map_cons, List.map_nil, Json.record.injEq,
    List.cons.injEq, Prod.mk.injEq, true_and, and_true] at h
  rw [Json.int32_inj h.1, Json.int32_inj h.2]

lemma Modifier.eq_of_spelled (hxs : Apart xs) {m n : Modifier} (hm : m.value ∈ xs)
    (hn : n.value ∈ xs) (h : m.toJson.spelled = n.toJson.spelled) : m = n := by
  obtain ⟨value, name⟩ := m
  obtain ⟨value', name'⟩ := n
  simp only [toJson, Json.spelled_record, List.map_cons, Json.record.injEq, List.cons.injEq,
    Prod.mk.injEq, true_and] at h
  have hvalue : value = value' := hxs.eq hm hn h.1
  rw [hvalue, Json.optionalText_inj h.2]

lemma Roll.eq_of_spelled (hxs : Apart xs) {r s : Roll} (hr : ∀ x ∈ r.numbers, x ∈ xs)
    (hs : ∀ x ∈ s.numbers, x ∈ xs) (h : r.toJson.spelled = s.toJson.spelled) : r = s := by
  obtain ⟨quantities, modifiers, name⟩ := r
  obtain ⟨quantities', modifiers', name'⟩ := s
  simp only [toJson, Json.spelled_record, List.map_cons, List.cons_append, List.nil_append,
    Json.record.injEq, List.cons.injEq, Prod.mk.injEq, true_and] at h
  obtain ⟨hquantities, hmodifiers, hname⟩ := h
  have hq : quantities.toList = quantities'.toList :=
    Json.list_inj (fun _ _ _ _ => Quantity.eq_of_spelled) hquantities
  have hm : modifiers.toList = modifiers'.toList :=
    Json.list_inj (fun m hm n hn => Modifier.eq_of_spelled hxs (hr _ (List.mem_map_of_mem hm))
      (hs _ (List.mem_map_of_mem hn))) hmodifiers
  rw [Sorted.ext hq, Sorted.ext hm, Json.optionalText_inj hname]

end Dice

lemma VariableId.eq_of_spelled {a b : VariableId} (h : a.toJson.spelled = b.toJson.spelled) :
    a = b := by
  obtain ⟨scope, name⟩ := a
  obtain ⟨scope', name'⟩ := b
  cases scope <;> cases scope' <;> simp_all [toJson, Json.optionalField]

lemma VariableRef.eq_of_spelled {r s : VariableRef} (h : r.toJson.spelled = s.toJson.spelled) :
    r = s := by
  cases r <;> cases s <;> simp [toJson, Json.single] at h
  · exact congrArg _ (VariableId.eq_of_spelled h)
  · exact congrArg _ h

lemma EntryRef.eq_of_spelled {r s : EntryRef} (h : r.toJson.spelled = s.toJson.spelled) :
    r = s := by
  obtain ⟨set, entry⟩ := r
  obtain ⟨set', entry'⟩ := s
  simpa [toJson] using h

lemma BooleanRef.eq_of_spelled {r s : BooleanRef} (h : r.toJson.spelled = s.toJson.spelled) :
    r = s := by
  cases r <;> cases s <;> simp [toJson, Json.single] at h
  · rename_i b b'
    cases b <;> cases b' <;> simp_all [Json.spelled]
  · exact congrArg _ (VariableRef.eq_of_spelled h)

lemma NumberRef.eq_of_spelled (hxs : Apart xs) {r s : NumberRef} (hr : ∀ x ∈ r.numbers, x ∈ xs)
    (hs : ∀ x ∈ s.numbers, x ∈ xs) (h : r.toJson.spelled = s.toJson.spelled) : r = s := by
  cases r <;> cases s <;> simp [toJson, Json.single] at h
  · exact congrArg _ (hxs.eq (hr _ (by simp [numbers])) (hs _ (by simp [numbers])) h)
  · exact congrArg _ (VariableRef.eq_of_spelled h)
  · exact congrArg _ (EntryRef.eq_of_spelled h)

lemma DiceRef.eq_of_spelled (hxs : Apart xs) {r s : DiceRef} (hr : ∀ x ∈ r.numbers, x ∈ xs)
    (hs : ∀ x ∈ s.numbers, x ∈ xs) (h : r.toJson.spelled = s.toJson.spelled) : r = s := by
  cases r <;> cases s <;> simp [toJson, Json.single] at h
  · exact congrArg _ (Dice.Roll.eq_of_spelled hxs hr hs h)
  · exact congrArg _ (VariableRef.eq_of_spelled h)

namespace Term

def numbers : Term → List Float
  | number r => r.numbers
  | diceRoll r => r.numbers
  | conditional _ t f => t.numbers ++ f.numbers

lemma eq_of_spelled (hxs : Apart xs) {t u : Term} (ht : ∀ x ∈ t.numbers, x ∈ xs)
    (hu : ∀ x ∈ u.numbers, x ∈ xs) (hrank : t.rank = u.rank)
    (h : t.fields.map (fun f => (f.1, f.2.spelled)) = u.fields.map fun f => (f.1, f.2.spelled)) :
    t = u := by
  cases t <;> cases u <;> simp [rank] at hrank <;> simp [fields] at h
  · exact congrArg _ (NumberRef.eq_of_spelled hxs ht hu h)
  · exact congrArg _ (DiceRef.eq_of_spelled hxs ht hu h)
  · simp only [numbers, List.forall_mem_append] at ht hu
    rw [BooleanRef.eq_of_spelled h.1, NumberRef.eq_of_spelled hxs ht.1 hu.1 h.2.1,
      NumberRef.eq_of_spelled hxs ht.2 hu.2 h.2.2]

end Term

namespace NamedTerm

def numbers (t : NamedTerm) : List Float := t.term.numbers

lemma eq_of_order (hxs : Apart xs) {t u : NamedTerm} (ht : ∀ x ∈ t.numbers, x ∈ xs)
    (hu : ∀ x ∈ u.numbers, x ∈ xs) (h : order t u = .eq) : t = u := by
  simp only [order, compareLex_eq_eq, compareOn, Std.compare_eq_iff_eq] at h
  obtain ⟨hname, hrank, htext⟩ := h
  have hspelled := Json.spelled_of_compact htext
  obtain ⟨name, t⟩ := t
  obtain ⟨_, u⟩ := u
  obtain rfl : name = _ := hname
  simp only [toJson, Json.spelled_record, List.map_cons, List.map_append, List.cons_append,
    Json.record.injEq] at hspelled
  have hfields := List.append_cancel_left (List.cons.inj hspelled).2
  exact congrArg _ (Term.eq_of_spelled hxs ht hu hrank hfields)

end NamedTerm

end Tabletop
