import Mathlib.Algebra.Order.BigOperators.Group.List
import Mathlib.Algebra.Order.Ring.Int
import Mathlib.Tactic.NormNum
import Tabletop.Proofs.Dice.Expression
import Tabletop.Proofs.Evaluation.CutOff

namespace Tabletop

namespace Word

def isLong (n : ℤ) : Bool := Int64.minValue.toInt ≤ n ∧ n ≤ Int64.maxValue.toInt

def sum? (ns : List ℤ) : Option ℤ :=
  ns.foldlM (fun sum n => if isLong (sum + n) then some (sum + n) else none) 0

lemma isLong_of_nonneg {n : ℤ} (h : 0 ≤ n) (hn : n ≤ Int64.maxValue.toInt) : isLong n = true := by
  have hmin : Int64.minValue.toInt ≤ 0 := by decide
  exact decide_eq_true ⟨hmin.trans h, hn⟩

lemma sum?_eq {ns : List ℤ} (h : ∀ n ∈ ns, 0 ≤ n) (hsum : ns.sum ≤ Int64.maxValue.toInt) :
    sum? ns = some ns.sum := by
  suffices hfold : ∀ m, 0 ≤ m → m + ns.sum ≤ Int64.maxValue.toInt →
      ns.foldlM (fun sum n => if isLong (sum + n) then some (sum + n) else none) m =
        some (m + ns.sum) by
    simpa [sum?] using hfold 0 le_rfl (by simpa using hsum)
  clear hsum
  -- the sum so far is not negative either, so it stays below the whole sum
  induction ns with
  | nil => simp
  | cons n ns ih =>
    intro m hm hsum
    obtain ⟨hn, hns⟩ := List.forall_mem_cons.1 h
    have hrest : 0 ≤ ns.sum := List.sum_nonneg hns
    rw [List.sum_cons, ← add_assoc] at hsum ⊢
    rw [List.foldlM_cons, if_pos (isLong_of_nonneg (by omega) (by omega))]
    exact ih hns (m + n) (by omega) hsum

lemma toInt_toInt64 {n : UInt64} (h : n.toNat < 2 ^ 63) : n.toInt64.toInt = n.toNat := by
  refine BitVec.toInt_eq_toNat_of_lt ?_
  change 2 * n.toNat < _
  omega

lemma toInt_toInt64_neg {n : UInt64} (h : 2 ^ 63 ≤ n.toNat) : n.toInt64.toInt < 0 :=
  BitVec.toInt_neg_iff.2 (by change 2 ^ 64 ≤ 2 * n.toNat; omega)

end Word

namespace Dice

lemma addUp_eq {α : Type} (f : α → ℤ) (xs : List α) : addUp f xs = (xs.map f).sum := by
  induction xs with
  | nil => rfl
  | cons x xs ih => rw [addUp, ih, List.map_cons, List.sum_cons]

namespace Roll

variable {r : Roll} {limit : UInt64}

lemma count_nonneg (hr : r.fault? = none) : ∀ q ∈ r.quantities.toList, 0 ≤ q.count.toInt :=
  fun q hq => (Quantity.isValid_iff.1 (fault?_eq_none.1 hr q hq)).2

lemma diceCount_nonneg (hr : r.fault? = none) : 0 ≤ r.diceCount := by
  rw [diceCount, addUp_eq]
  exact List.sum_nonneg (List.forall_mem_map.2 (count_nonneg hr))

lemma sum?_counts (hr : r.fault? = none) (hlen : r.quantities.toList.length ≤ 2 ^ 32) :
    Word.sum? (r.quantities.toList.map (·.count.toInt)) = some r.diceCount := by
  rw [diceCount, addUp_eq]
  refine Word.sum?_eq (List.forall_mem_map.2 (count_nonneg hr)) ?_
  have hsum := List.sum_le_card_nsmul (r.quantities.toList.map (·.count.toInt)) (2 ^ 31 - 1)
    (List.forall_mem_map.2 fun q _ => Int.le_sub_one_of_lt q.count.toInt_lt)
  have hmax : Int64.maxValue.toInt = 2 ^ 63 - 1 := rfl
  rw [List.length_map, nsmul_eq_mul] at hsum
  have hlen : (r.quantities.toList.length : ℤ) ≤ 2 ^ 32 := by exact_mod_cast hlen
  omega

lemma lt_diceCount_iff (hr : r.fault? = none) :
    limit.toInt64.toInt < r.diceCount ↔ limit.toNat < r.diceCount ∨ 2 ^ 63 ≤ limit.toNat := by
  have hcount := diceCount_nonneg hr
  rcases Nat.lt_or_ge limit.toNat (2 ^ 63) with h | h
  · have hsigned := Word.toInt_toInt64 h
    omega
  · have hsigned := Word.toInt_toInt64_neg h
    omega

def outcome (r : Roll) (cs : List Component) : Throw :=
  ⟨cs, r.modifierTotal, Float.ofInt (addUp Component.subtotal cs) + r.modifierTotal⟩

lemma run_throw_tooMany (hr : r.fault? = none) (h : limit.toInt64.toInt < r.diceCount) :
    (r.throw limit).run = .done (.error (.tooMany r.diceCount limit)) := by
  rw [throw, hr]
  simp only [if_pos h]
  rfl

lemma run_throw_ok (hr : r.fault? = none) (h : r.diceCount ≤ limit.toInt64.toInt) :
    (r.throw limit).run =
      Quantity.throwAll r.quantities.toList >>= fun cs => .done (.ok (r.outcome cs)) := by
  rw [throw, hr]
  simp only [if_neg (not_lt.2 h), ExceptT.run_bind]
  simp [outcome]

/-- The roll needs too many dice for this limit, and none is asked for. -/
def Refused (r : Roll) (limit : UInt64) : Prop :=
  (r.throw limit).run = .done (.error (.tooMany r.diceCount limit))

lemma refused_iff_toInt (hr : r.fault? = none) :
    r.Refused limit ↔ limit.toInt64.toInt < r.diceCount := by
  constructor
  · intro h
    by_contra hle
    have hend : ((r.throw limit).run).Ends (.error (.tooMany r.diceCount limit)) := by
      rw [h]
      exact .done _
    rw [run_throw_ok hr (not_lt.1 hle)] at hend
    simp at hend
  · exact run_throw_tooMany hr

lemma not_ends_error (hr : r.fault? = none) (h : ¬ r.Refused limit) (f : Fault) :
    ¬ (r.throw limit).run.Ends (.error f) := by
  rw [refused_iff_toInt hr, not_lt] at h
  simp [run_throw_ok hr h]

lemma throw_congr (hr : r.fault? = none) {more : UInt64} (hle : limit ≤ more)
    (hmore : more.toNat < 2 ^ 63) (h : ¬ r.Refused limit) : r.throw more = r.throw limit := by
  rw [refused_iff_toInt hr, not_lt] at h
  have hraise := toInt_le hle (by
    change (more.toNat : ℤ) ≤ 2 ^ 63 - 1
    omega)
  exact (run_throw_ok hr (h.trans hraise)).trans (run_throw_ok hr h).symm

end Roll

open Roll

/-- A roll of more dice than the limit is refused. A limit that is no signed word is read as a
negative number, and every roll is refused; a limit that is one lets all others through, and raising
it to another one changes nothing for them. -/
theorem dice_limit_signed {r : Roll} (hr : r.fault? = none)
    (hlen : r.quantities.toList.length ≤ 2 ^ 32) (limit : UInt64) :
    Word.sum? (r.quantities.toList.map (·.count.toInt)) = some r.diceCount ∧
      (r.Refused limit ↔ (limit.toNat : ℤ) < r.diceCount ∨ 2 ^ 63 ≤ limit.toNat) ∧
      (¬ r.Refused limit → ∀ f, ¬ (r.throw limit).run.Ends (.error f)) ∧
      ∀ more, limit ≤ more → more.toNat < 2 ^ 63 → ¬ r.Refused limit →
        r.throw more = r.throw limit ∧
          ∀ (c : Context) (l : Limits), c.limits.dice = limit → l.dice = more →
            (c.under l).reply (.roll r) = c.reply (.roll r) := by
  refine ⟨sum?_counts hr hlen, (refused_iff_toInt hr).trans (lt_diceCount_iff hr),
    fun h => not_ends_error hr h, fun more hle hmore h => ?_⟩
  have hthrow := throw_congr hr hle hmore h
  refine ⟨hthrow, fun c l hlimit hl => ?_⟩
  simp only [Context.reply, total, hl, hlimit, hthrow]

def die : Roll := Roll.addDice {} 1 6

theorem dice_limit_signed_die : die.fault? = none ∧ die.quantities.toList.length ≤ 2 ^ 32 ∧
    ¬ die.Refused 1 ∧ die.Refused 0 ∧ die.throw 9223372036854775807 = die.throw 1 := by
  have hr : die.fault? = none := by decide
  have hlen : die.quantities.toList.length ≤ 2 ^ 32 := by decide
  obtain ⟨_, hone, _, hraise⟩ := dice_limit_signed hr hlen 1
  obtain ⟨_, hzero, _, _⟩ := dice_limit_signed hr hlen 0
  have hallowed : ¬ die.Refused 1 := fun h => absurd (hone.1 h) (by decide)
  exact ⟨hr, hlen, hallowed, hzero.2 (by decide),
    (hraise 9223372036854775807 (by decide) (by decide) hallowed).1⟩

theorem die_refused : ∃ limits : Limits,
    limits = Limits.ofSettings (fun name =>
      if name = "MAX_DICE_PER_ROLL" then some "18446744073709551615" else none) ∧
      limits.dice.toNat = 2 ^ 64 - 1 ∧ die.fault? = none ∧ die.diceCount = 1 ∧
      die.Refused limits.dice ∧ ¬ die.Refused usualLimit := by
  refine ⟨_, rfl, by decide +kernel, by decide, by decide, ?_, ?_⟩
  · exact run_throw_tooMany (by decide) (by decide +kernel)
  · rw [refused_iff_toInt (by decide)]
    decide

end Dice

end Tabletop
