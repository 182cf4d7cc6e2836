import Tabletop.Json.Fields
import Tabletop.Json.Parse
import Tabletop.Proofs.Json.Number
import Tabletop.Proofs.Json.Scaled

namespace Tabletop

namespace Json

inductive Finite : Json → Prop
  | null : Finite .null
  | bool (b : Bool) : Finite (.bool b)
  | number {n : Number} : n.toFloat.isFinite = true → Finite (.number n)
  | text (s : String) : Finite (.text s)
  | list {items : List Json} : (∀ j ∈ items, Finite j) → Finite (.list items)
  | record {fields : List (String × Json)} : (∀ f ∈ fields, Finite f.2) → Finite (.record fields)

namespace Token

lemma finite_of_signed? {negative : Bool} {m : ℕ} {e : ℤ} (hm : m < UInt64.size) {n : Number}
    (h : ((scaled? m e).bind fun x => some (Number.float (signed negative x))) = some n) :
    n.toFloat.isFinite = true := by
  obtain ⟨x, hx, h⟩ := Option.bind_eq_some_iff.1 h
  cases h
  change (signed negative x).isFinite = true
  rw [signed]
  split
  · exact Decimal.isFinite_neg (finite_of_scaled? hm hx)
  · exact finite_of_scaled? hm hx

lemma finite_wholeNumber {negative : Bool} {m : ℕ} (hm : m < UInt64.size) :
    (wholeNumber negative m).toFloat.isFinite = true := by
  rw [wholeNumber]
  split
  · exact Decimal.isFinite_ofInt hm
  · split
    · refine Decimal.isFinite_ofInt ?_
      rwa [Int.natAbs_neg]
    · exact Decimal.isFinite_neg (Decimal.isFinite_ofNat hm)

lemma finite_of_magnitude? {negative : Bool} {cs : List Char} {n : Number}
    (h : magnitude? negative cs = some n) : n.toFloat.isFinite = true := by
  have hwhole : (gather 0 (cs.takeWhile Char.isDigit)).1 < UInt64.size := gather_lt (by decide)
  simp only [magnitude?, bind] at h
  generalize gather 0 (cs.takeWhile Char.isDigit) = whole at h hwhole
  have hfloat {es : Option ℤ} {fs : List Char}
      (h : (es.bind fun e =>
        (scaled? (gather whole.1 fs).1 (e + whole.2 + (gather whole.1 fs).2 - fs.length)).bind
          fun x => some (Number.float (signed negative x))) = some n) :
      n.toFloat.isFinite = true := by
    obtain ⟨e, _, h⟩ := Option.bind_eq_some_iff.1 h
    exact finite_of_signed? (gather_lt hwhole) h
  split at h
  · cases h
  · split at h
    · cases h
      exact finite_wholeNumber hwhole
    · -- with or without a fraction, there may be an exponent
      split at h
      · split at h
        · cases h
        · rw [Option.bind_some] at h
          split at h
          · exact hfloat h
          · split at h <;> exact hfloat h
      · rw [Option.bind_some] at h
        split at h
        · exact hfloat h
        · split at h <;> exact hfloat h

lemma finite_of_word? {cs : List Char} {j : Json} (h : word? cs = some j) : j.Finite := by
  rw [word?] at h
  split at h
  · cases h
    exact .null
  · split at h
    · cases h
      exact .bool true
    · split at h
      · cases h
        exact .bool false
      · obtain ⟨n, hn, rfl⟩ := Option.map_eq_some_iff.1 h
        refine .number ?_
        unfold number? at hn
        split at hn
        · exact finite_of_magnitude? hn
        · exact finite_of_magnitude? hn

def Finite (t : Token) : Prop := ∀ j, t = .word j → j.Finite

lemma finite_of_mark? {c : Char} {t : Token} (h : mark? c = some t) : t.Finite := by
  rintro j rfl
  simp only [mark?] at h
  split at h <;> cases h

lemma finite_of_scan {cs : List Char} {tokens : List Token} (h : scan cs = some tokens) :
    ∀ t ∈ tokens, t.Finite := by
  fun_induction scan cs generalizing tokens with
  | case1 =>
    cases h
    exact nofun
  | case2 c rest _ ih => exact ih h
  | case3 c rest _ t ht ih =>
    obtain ⟨ts, hts, rfl⟩ := Option.map_eq_some_iff.1 h
    exact List.forall_mem_cons.2 ⟨finite_of_mark? ht, ih hts⟩
  | case4 => cases h
  | case5 rest units rest' _ _ _ ih =>
    simp only [bind, Option.bind_eq_some_iff] at h
    obtain ⟨s, _, ts, hts, h⟩ := h
    cases h
    exact List.forall_mem_cons.2 ⟨nofun, ih hts⟩
  | case6 c rest _ _ _ ih =>
    simp only [bind, Option.bind_eq_some_iff] at h
    obtain ⟨j, hj, ts, hts, h⟩ := h
    cases h
    refine List.forall_mem_cons.2 ⟨?_, ih hts⟩
    rintro _ ⟨⟩
    exact finite_of_word? hj

end Token

def Context.Finite : Context → Prop
  | items before => ∀ j ∈ before, j.Finite
  | field before _ => ∀ f ∈ before, f.2.Finite

namespace Progress

def Finite : Progress → Prop
  | value outer | firstItem outer | firstKey outer => ∀ c ∈ outer, c.Finite
  | key before outer | colon before _ outer =>
    (∀ f ∈ before, f.2.Finite) ∧ ∀ c ∈ outer, c.Finite
  | complete j outer => j.Finite ∧ ∀ c ∈ outer, c.Finite

lemma finite_of_enter {outer : List Context} (ho : ∀ c ∈ outer, c.Finite) {t : Token}
    (ht : t.Finite) {p : Progress} (h : enter outer t = some p) : p.Finite := by
  cases t with
  | text s =>
    cases h
    exact ⟨.text s, ho⟩
  | word j =>
    cases h
    exact ⟨ht j rfl, ho⟩
  | openList =>
    rw [enter] at h
    split at h <;> cases h
    exact ho
  | openRecord =>
    rw [enter] at h
    split at h <;> cases h
    exact ho
  | closeList | closeRecord | comma | colon => cases h

lemma finite_complete_cons {j : Json} {c : Context} {outer : List Context}
    (h : (complete j (c :: outer)).Finite) : j.Finite ∧ c.Finite ∧ ∀ c ∈ outer, c.Finite :=
  ⟨h.1, List.forall_mem_cons.1 h.2⟩

lemma finite_of_step {p q : Progress} (hp : p.Finite) {t : Token} (ht : t.Finite)
    (h : step p t = some q) : q.Finite := by
  fun_cases step p t with
  | case1 outer => exact finite_of_enter hp ht h
  | case2 outer =>
    cases h
    exact ⟨.list (by simp), hp⟩
  | case3 outer =>
    rw [step] at h
    · exact finite_of_enter (List.forall_mem_cons.2 ⟨by simp [Context.Finite], hp⟩) ht h
    · assumption
  | case4 outer =>
    cases h
    exact ⟨.record (by simp), hp⟩
  | case5 outer k =>
    cases h
    exact ⟨by simp, hp⟩
  | case6 before outer k =>
    cases h
    exact hp
  | case7 before k outer =>
    cases h
    exact List.forall_mem_cons.2 hp
  | case8 j before outer =>
    cases h
    obtain ⟨hj, hbefore, houter⟩ := finite_complete_cons hp
    exact List.forall_mem_cons.2 ⟨List.forall_mem_cons.2 ⟨hj, hbefore⟩, houter⟩
  | case9 j before outer =>
    cases h
    obtain ⟨hj, hbefore, houter⟩ := finite_complete_cons hp
    refine ⟨.list fun i hi => ?_, houter⟩
    exact List.forall_mem_cons.2 ⟨hj, hbefore⟩ i (List.mem_reverse.1 hi)
  | case10 j before k outer =>
    cases h
    obtain ⟨hj, hbefore, houter⟩ := finite_complete_cons hp
    exact ⟨List.forall_mem_cons.2 ⟨hj, hbefore⟩, houter⟩
  | case11 j before k outer =>
    cases h
    obtain ⟨hj, hbefore, houter⟩ := finite_complete_cons hp
    refine ⟨.record fun f hf => ?_, houter⟩
    have hall : ∀ f ∈ (k, j) :: before, f.2.Finite := List.forall_mem_cons.2 ⟨hj, hbefore⟩
    exact hall f (List.mem_reverse.1 hf)
  | case12 =>
    rw [step] at h
    · cases h
    all_goals assumption

lemma finite_of_foldlM {tokens : List Token} (ht : ∀ t ∈ tokens, t.Finite) {p q : Progress}
    (hp : p.Finite) (h : tokens.foldlM step p = some q) : q.Finite := by
  induction tokens generalizing p with
  | nil =>
    cases h
    exact hp
  | cons t tokens ih =>
    rw [List.foldlM_cons] at h
    obtain ⟨p', hstep, h⟩ := Option.bind_eq_some_iff.1 h
    rw [List.forall_mem_cons] at ht
    exact ih ht.2 (finite_of_step hp ht.1 hstep) h

lemma finite_of_result? {p : Progress} (hp : p.Finite) {j : Json} (h : p.result? = some j) :
    j.Finite := by
  cases p with
  | complete i outer =>
    cases outer <;> cases h
    exact hp.1
  | value | firstItem | firstKey | key | colon => cases h

end Progress

lemma finite_of_parse? {text : String} {j : Json} (h : parse? text = some j) : j.Finite := by
  simp only [parse?, bind, Option.bind_eq_some_iff] at h
  obtain ⟨tokens, htokens, p, hp, h⟩ := h
  refine Progress.finite_of_result? (Progress.finite_of_foldlM ?_ ?_ hp) h
  · exact Token.finite_of_scan htokens
  · exact fun _ => nofun

end Json

end Tabletop
