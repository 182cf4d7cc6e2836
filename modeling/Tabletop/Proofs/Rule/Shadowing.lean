import Tabletop.Proofs.Evaluation.Congruence
import Tabletop.Proofs.Results

namespace Tabletop

namespace Value

def Definite : Value → Prop
  | number x => x.isNaN = false
  | text _ | boolean _ | diceRoll _ | listText _ => True

instance : DecidablePred Definite
  | number x => inferInstanceAs (Decidable (x.isNaN = false))
  | text _ | boolean _ | diceRoll _ | listText _ => .isTrue trivial

lemma Definite.beq_self {v : Value} (h : v.Definite) : (v == v) = true := by
  cases v with
  | number x => exact Decimal.beq_self h
  | text | boolean | diceRoll | listText => exact beq_iff.2 (.inr ⟨rfl, nofun⟩)

lemma beq_self_of_definite {vs : List Value} (h : ∀ v ∈ vs, v.Definite) : (vs == vs) = true := by
  induction vs with
  | nil => rfl
  | cons v vs ih =>
    obtain ⟨hv, hvs⟩ := List.forall_mem_cons.1 h
    rw [List.cons_beq_cons, hv.beq_self, ih hvs]
    rfl

end Value

def Row.Definite (row : Row) : Prop := (∀ v ∈ row.parameters, v.Definite) ∧ row.result.Definite

instance : DecidablePred Row.Definite := fun row =>
  inferInstanceAs (Decidable ((∀ v ∈ row.parameters, v.Definite) ∧ row.result.Definite))

namespace Table

variable {t : Table} {row first : Row} {k : ℕ}

/-- The row `first` is the first with the parameters of the row at `k`, lies before that row and has
another result. -/
structure Shadows (t : Table) (first : Row) (k : ℕ) (row : Row) : Prop where
  stands : t.rows[k]? = some row
  earlier : ∃ j < k, t.rows[j]? = some first ∧
    ∀ i < j, ∀ other, t.rows[i]? = some other → (other.parameters == row.parameters) = false
  equal : (first.parameters == row.parameters) = true
  differs : (first.result == row.result) = false

lemma checkArguments_of_validate (h : t.validate = .ok ()) (hrow : row ∈ t.rows) :
    t.signature.checkArguments t.id row.parameters = .ok () := by
  have hchecked : t.checkRow row = .ok () := forM_eq_ok.1 h row hrow
  rw [checkRow, bind_eq_ok] at hchecked
  obtain ⟨_, hargs, _⟩ := hchecked
  exact hargs

lemma apply_of_find? {args : List Value}
    (hargs : t.signature.checkArguments t.id args = .ok ())
    (h : t.rows.find? (·.parameters == args) = some row) : t.apply args = .ok row.result := by
  rw [apply, hargs, h]
  rfl

lemma apply_of_shadows (hvalid : t.validate = .ok ()) (h : t.Shadows first k row) :
    t.apply row.parameters = .ok first.result := by
  obtain ⟨j, _, hfirst, hbefore⟩ := h.earlier
  obtain ⟨hj, hget⟩ := List.getElem?_eq_some_iff.1 hfirst
  have hfound : t.rows.find? (·.parameters == row.parameters) = some first := by
    refine List.find?_eq_some_iff_getElem.2 ⟨h.equal, j, hj, hget, fun i hi => ?_⟩
    rw [hbefore i hi _ (List.getElem?_eq_getElem _)]
    rfl
  exact apply_of_find? (checkArguments_of_validate hvalid (List.mem_of_getElem? h.stands)) hfound

lemma conforms_or_shadowed (hvalid : t.validate = .ok ()) (hrow : t.rows[k]? = some row)
    (hdefinite : row.Definite) :
    (∃ v, t.apply row.parameters = .ok v ∧ (v == row.result) = true) ∨
      ∃ first, t.Shadows first k row := by
  have hmem : row ∈ t.rows := List.mem_of_getElem? hrow
  have hself : (row.parameters == row.parameters) = true :=
    Value.beq_self_of_definite hdefinite.1
  cases hfound : t.rows.find? (·.parameters == row.parameters) with
  | none => exact absurd hself (List.find?_eq_none.1 hfound row hmem)
  | some first =>
    have happly := apply_of_find? (checkArguments_of_validate hvalid hmem) hfound
    cases hresult : first.result == row.result with
    | true => exact .inl ⟨first.result, happly, hresult⟩
    | false =>
      obtain ⟨hequal, j, hj, hfirst, hbefore⟩ := List.find?_eq_some_iff_getElem.1 hfound
      have hother (i : ℕ) (hi : i < j) (other : Row) (hget : t.rows[i]? = some other) :
          (other.parameters == row.parameters) = false := by
        obtain ⟨_, rfl⟩ := List.getElem?_eq_some_iff.1 hget
        simpa using hbefore i hi
      have hget : t.rows[j]? = some first := List.getElem?_eq_some_iff.2 ⟨hj, hfirst⟩
      -- the first row with the parameters does not lie after the row, nor is it the row
      have hle : ¬k < j := fun hlt => by simp [hother k hlt row hrow] at hself
      have hne : j ≠ k := by
        rintro rfl
        obtain rfl : first = row := Option.some.inj (hget.symm.trans hrow)
        simp [hdefinite.2.beq_self] at hresult
      exact .inr ⟨first, hrow, ⟨j, by omega, hget, hother⟩, hequal, hresult⟩

def SingleValued (t : Table) : Prop := ∀ row ∈ t.rows, ∀ other ∈ t.rows,
  (row.parameters == other.parameters) = true → (row.result == other.result) = true

lemma singleValued_iff (hvalid : t.validate = .ok ()) (hdefinite : ∀ row ∈ t.rows, row.Definite) :
    t.SingleValued ↔ ∀ first k row, ¬t.Shadows first k row := by
  constructor
  · intro h first k row hshadows
    obtain ⟨j, _, hfirst, _⟩ := hshadows.earlier
    have hsame := h first (List.mem_of_getElem? hfirst) row (List.mem_of_getElem? hshadows.stands)
      hshadows.equal
    simp [hshadows.differs] at hsame
  · intro h row hrow other hother hequal
    have hanswer (row : Row) (hrow : row ∈ t.rows) :
        ∃ v, t.apply row.parameters = .ok v ∧ (v == row.result) = true := by
      obtain ⟨k, hk⟩ := List.mem_iff_getElem?.1 hrow
      exact (conforms_or_shadowed hvalid hk (hdefinite row hrow)).resolve_right
        fun ⟨first, hshadows⟩ => h first k row hshadows
    obtain ⟨v, hv, hvrow⟩ := hanswer row hrow
    obtain ⟨w, hw, hwother⟩ := hanswer other hother
    rw [t.apply_like (Value.allLike_of_beq hequal), hw] at hv
    cases hv
    exact BEq.trans (BEq.symm hvrow) hwother

end Table

end Tabletop
