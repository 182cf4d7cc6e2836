import Tabletop.Proofs.Evaluation.Unwinding
import Tabletop.Proofs.Stored.Spelling
import Tabletop.Stored.Rule

namespace Tabletop

namespace NamedTerm

/-- By name, none first, then by kind, then by the text of what is stored. -/
def Before (t u : NamedTerm) : Prop :=
  t.name < u.name ∨ t.name = u.name ∧ (t.term.rank < u.term.rank ∨
    t.term.rank = u.term.rank ∧ t.toJson.compact < u.toJson.compact)

lemma compare_text {s t : String} : compare s t = .lt ↔ s < t := compareOfLessAndEq_eq_lt

lemma compare_name {s t : Option String} : compare s t = .lt ↔ s < t := by
  cases s with
  | none => cases t <;> simp [compare]
  | some s =>
    cases t with
    | none => simp [compare]
    | some t => exact compare_text

lemma before_of_order {t u : NamedTerm} (h : order t u = .lt) : t.Before u := by
  simp only [order, compareLex, compareOn, Ordering.then_eq_lt, compare_text, compare_name,
    Std.compare_eq_iff_eq, Nat.compare_eq_lt] at h
  exact h

end NamedTerm

namespace Summation

variable {ts us : List NamedTerm}

lemma mem_terms (hxs : Json.Apart (ts.flatMap NamedTerm.numbers)) {s : Summation}
    (hs : s.terms = ∅) {t : NamedTerm} : t ∈ (ts.foldl addTerm s).terms ↔ t ∈ ts := by
  have hnumbers {t : NamedTerm} (ht : t ∈ ts) :
      ∀ x ∈ t.numbers, x ∈ ts.flatMap NamedTerm.numbers :=
    fun x hx => List.mem_flatMap.2 ⟨t, ht, hx⟩
  rw [terms_foldl, hs, Sorted.mem_foldl_insert_of_eq]
  · simp
  · intro t ht u hu heq
    have hu : u ∈ ts := hu.resolve_left Sorted.not_mem_empty
    exact NamedTerm.eq_of_order hxs (hnumbers ht) (hnumbers hu) heq

lemma terms_eq (hxs : Json.Apart (ts.flatMap NamedTerm.numbers)) (h : ∀ t, t ∈ ts ↔ t ∈ us)
    {s s' : Summation} (hs : s.terms = ∅) (hs' : s'.terms = ∅) :
    (us.foldl addTerm s').terms = (ts.foldl addTerm s).terms := by
  have hnumbers {x : Float} (hx : x ∈ us.flatMap NamedTerm.numbers) :
      x ∈ ts.flatMap NamedTerm.numbers := by
    obtain ⟨t, ht, hx⟩ := List.mem_flatMap.1 hx
    exact List.mem_flatMap.2 ⟨t, (h t).2 ht, hx⟩
  have hus : Json.Apart (us.flatMap NamedTerm.numbers) :=
    ⟨fun x hx => hxs.finite x (hnumbers hx),
      fun x hx y hy => hxs.text x (hnumbers hx) y (hnumbers hy)⟩
  apply Sorted.ext_mem
  intro t
  rw [mem_terms hus hs', mem_terms hxs hs, h]

lemma evaluate_eq {s s' : Summation} (h : s'.terms = s.terms) : s'.evaluate = s.evaluate := by
  rw [evaluate, evaluate, h]

end Summation

/-- Summations made of the same terms are the same but for their names, in whatever order the terms
are added and however often: their terms are in strictly increasing order, each is one of those
given and there once, and the summations are evaluated alike. -/
theorem summation_terms_form_set (ts us : List NamedTerm) (hsame : ∀ t, t ∈ ts ↔ t ∈ us)
    (hfinite : ∀ x ∈ ts.flatMap NamedTerm.numbers, x.isFinite = true)
    (hprinted : ∀ x ∈ ts.flatMap NamedTerm.numbers, ∀ y ∈ ts.flatMap NamedTerm.numbers,
      Json.floatLayout.text x = Json.floatLayout.text y → x = y)
    (id id' : SummationId) (name name' : String) :
    let s := ts.foldl Summation.addTerm { id, name }
    let s' := us.foldl Summation.addTerm { id := id', name := name' }
    s.terms.toList.Pairwise NamedTerm.Before ∧ s.terms.toList.Nodup ∧
      (∀ t, t ∈ s.terms.toList ↔ t ∈ ts) ∧ s'.terms = s.terms ∧
      (∀ j fields, j.fields? ["id", "name", "terms"] = some fields →
        Json.required? fields "id" Json.text? = some id' →
        Json.required? fields "name" Json.text? = some name' →
        Json.defaulted? fields "terms" (Json.listOf? NamedTerm.ofJson?) [] = some us →
        Summation.ofJson? j = some s') ∧
      ∀ (c : Context) (f : Frame) {δ : Type} (face : δ → ℕ → ℕ × δ) (d : δ),
        (c.carry s'.evaluate.run f).play face d = (c.carry s.evaluate.run f).play face d := by
  intro s s'
  have hxs : Json.Apart (ts.flatMap NamedTerm.numbers) := ⟨hfinite, hprinted⟩
  have hterms : s'.terms = s.terms := Summation.terms_eq hxs hsame rfl rfl
  have hirrefl {t : NamedTerm} : NamedTerm.order t t ≠ .lt := by
    simp [Std.ReflCmp.compare_self]
  refine ⟨s.terms.increasing.imp NamedTerm.before_of_order, ?_,
    fun t => Summation.mem_terms hxs rfl, hterms, ?_, fun c f δ face d => ?_⟩
  · refine s.terms.increasing.imp fun h heq => ?_
    rw [heq] at h
    exact hirrefl h
  · intro j fields hfields hid hname hread
    simp only [Summation.ofJson?, hfields, Option.bind_eq_bind, Option.bind_some, hid, hname, hread]
    rfl
  · rw [Summation.evaluate_eq hterms]

namespace SummationTerms

def zero : NamedTerm := { term := .number (.literal 0.0) }

def negativeZero : NamedTerm := { term := .number (.literal (-0.0)) }

def attack : NamedTerm where
  name := some "attack"
  term := .conditional (.variable (.tag "armed")) (.literal 0.0) (.entry ⟨"weapons", "fist"⟩)

lemma numbers_finite : ∀ x ∈ [zero, attack, negativeZero].flatMap NamedTerm.numbers,
    x.isFinite = true := by
  decide +kernel

lemma numbers_printed : ∀ x ∈ [zero, attack, negativeZero].flatMap NamedTerm.numbers,
    ∀ y ∈ [zero, attack, negativeZero].flatMap NamedTerm.numbers,
      Json.floatLayout.text x = Json.floatLayout.text y → x = y := by
  decide +kernel

def stored : Json :=
  .record [("name", .text "Copy"), ("id", .text "copy"),
    ("terms", .list ([attack, zero, negativeZero, attack].map NamedTerm.toJson))]

end SummationTerms

open SummationTerms in
theorem summation_terms_form_set_stored :
    let s := [zero, attack, negativeZero].foldl Summation.addTerm { id := "total", name := "Total" }
    let s' := [attack, zero, negativeZero, attack].foldl Summation.addTerm
      { id := "copy", name := "Copy" }
    zero ≠ negativeZero ∧ s.terms.toList = [negativeZero, zero, attack] ∧ s'.terms = s.terms ∧
      Summation.ofJson? stored = some s' := by
  have hsame : ∀ t, t ∈ [zero, attack, negativeZero] ↔
      t ∈ [attack, zero, negativeZero, attack] := by
    intro t
    simp only [List.mem_cons, List.not_mem_nil, or_false]
    tauto
  obtain ⟨_, _, _, hterms, hload, _⟩ := summation_terms_form_set _ _ hsame numbers_finite
    numbers_printed "total" "copy" "Total" "Copy"
  refine ⟨by decide +kernel, by decide +kernel, hterms, hload stored _ rfl rfl rfl ?_⟩
  decide +kernel

end Tabletop
