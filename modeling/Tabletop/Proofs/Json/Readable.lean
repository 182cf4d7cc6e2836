import Tabletop.Proofs.Json.Number
import Tabletop.Proofs.Json.Scaled

/-! The text of a finite number is read as a number, though not always as the same one. -/

namespace Tabletop

namespace Json

open Decimal (Digits Binary)
open Decimal.Binary (top)
open Decimal.Layout (digitTexts)
open Token (magnitude? number? readDigits exponent? gather scaled? signed)

variable {negative : Bool} {ds fs rest : List Char} {w : ℤ}

structure Leading (ds : List Char) : Prop where
  digits : ∀ c ∈ ds, c.isDigit = true
  nonempty : ds ≠ []
  nonzero : ¬ (1 < ds.length ∧ ds.head? = some '0')

inductive Trailing : List Char → ℤ → Prop
  | plain : Trailing [] 0
  | exponent {more : List Char} {w : ℤ} : exponent? more = some w → Trailing ('e' :: more) w

lemma not_digit_cons {c : Char} (hc : c.isDigit = false) (cs : List Char) :
    ∀ b ∈ (c :: cs).head?, b.isDigit = false := by
  rintro b ⟨⟩
  exact hc

lemma Trailing.not_digit (h : Trailing rest w) : ∀ c ∈ rest.head?, c.isDigit = false := by
  cases h with
  | plain => nofun
  | exponent => exact not_digit_cons (by decide) _

lemma span_digits (hds : ∀ c ∈ ds, c.isDigit = true) (hrest : ∀ c ∈ rest.head?, c.isDigit = false) :
    (ds ++ rest).takeWhile Char.isDigit = ds ∧ (ds ++ rest).dropWhile Char.isDigit = rest := by
  rw [List.takeWhile_append_of_pos hds, List.dropWhile_append_of_pos hds]
  cases rest with
  | nil => exact ⟨List.append_nil _, rfl⟩
  | cons c rest =>
    have hc := hrest c rfl
    rw [List.takeWhile_cons_of_neg (by simp [hc]), List.dropWhile_cons_of_neg (by simp [hc])]
    exact ⟨List.append_nil _, rfl⟩

lemma magnitude?_point (negative : Bool) (hds : Leading ds) (hfs : ∀ c ∈ fs, c.isDigit = true)
    (hne : fs ≠ []) (hrest : Trailing rest w) (hsize : readDigits (ds ++ fs) < UInt64.size) :
    magnitude? negative (ds ++ '.' :: (fs ++ rest)) =
      (scaled? (readDigits (ds ++ fs)) (w - fs.length)).map fun x => .float (signed negative x) := by
  have hpoint : Char.isDigit '.' = false := by decide
  obtain ⟨htake, hdrop⟩ := span_digits hds.digits (not_digit_cons hpoint (fs ++ rest))
  obtain ⟨htake', hdrop'⟩ := span_digits hfs hrest.not_digit
  obtain ⟨hgather, hgather'⟩ := gather_append hsize
  have hzero := hds.nonzero
  have hempty : ds.isEmpty = false := by simpa using hds.nonempty
  have hempty' : fs.isEmpty = false := by simpa using hne
  simp only [magnitude?, htake, hdrop, htake', hdrop', hempty, hempty', hgather]
  rw [if_neg (by simpa using hzero), if_neg (by simp), if_neg Bool.false_ne_true]
  cases hrest with
  | plain =>
    simp only [Option.bind_eq_bind, Option.bind_some, Option.pure_def, Option.map_eq_bind,
      Function.comp_def, hgather', Nat.cast_zero, add_zero]
  | exponent hw =>
    simp only [true_or, if_true, hw, Option.bind_eq_bind, Option.bind_some, Option.pure_def,
      Option.map_eq_bind, Function.comp_def, hgather', Nat.cast_zero, add_zero]

lemma magnitude?_exponent (hds : Leading ds) {more : List Char} (hw : exponent? more = some w)
    (hsize : readDigits ds < UInt64.size) : magnitude? negative (ds ++ 'e' :: more) =
      (scaled? (readDigits ds) w).map fun x => .float (signed negative x) := by
  obtain ⟨htake, hdrop⟩ := span_digits hds.digits (Trailing.exponent hw).not_digit
  have hgather := gather_of_lt hsize
  have hzero := hds.nonzero
  have hempty : ds.isEmpty = false := by simpa using hds.nonempty
  simp only [magnitude?, htake, hdrop, hempty, hgather]
  rw [if_neg (by simpa using hzero), if_neg (by simp)]
  simp only [true_or, if_true, hw, Option.bind_eq_bind, Option.bind_some, Option.pure_def,
    Option.map_eq_bind, Function.comp_def, gather, List.length_nil, Nat.cast_zero, add_zero,
    sub_zero]
  rfl

section Digits

variable {n k : ℕ} {d : Digits}

lemma isDigit_digitTexts (n : ℕ) : ∀ c ∈ digitTexts n, c.isDigit = true := by
  rw [digitTexts, Nat.toList_repr]
  exact fun c hc => Nat.isDigit_of_mem_toDigits (by decide) (by decide) hc

lemma isDigit_drop (k n : ℕ) : ∀ c ∈ (digitTexts n).drop k, c.isDigit = true :=
  fun c hc => isDigit_digitTexts n c (List.mem_of_mem_drop hc)

lemma isDigit_zeros (k : ℕ) : ∀ c ∈ List.replicate k '0', c.isDigit = true := by
  intro c hc
  rw [List.eq_of_mem_replicate hc]
  rfl

lemma readDigits_digitTexts (n : ℕ) : readDigits (digitTexts n) = n := by
  rw [digitTexts, Nat.toList_repr, readDigits_toDigits]

lemma readDigits_zeros (k : ℕ) (ds : List Char) :
    readDigits (List.replicate k '0' ++ ds) = readDigits ds := by
  induction k with
  | zero => rfl
  | succ k ih => exact ih

lemma head?_digitTexts (hn : 0 < n) : (digitTexts n).head? ≠ some '0' := by
  rw [digitTexts, Nat.toList_repr]
  exact fun h => Nat.ne_of_gt hn (head?_toDigits n h)

lemma leading_digitTexts (hn : 0 < n) : Leading (digitTexts n) :=
  ⟨isDigit_digitTexts n, digitTexts_ne_nil n, fun h => head?_digitTexts hn h.2⟩

lemma leading_take (hn : 0 < n) (hk : 0 < k) : Leading ((digitTexts n).take k) := by
  obtain ⟨k, rfl⟩ := Nat.exists_eq_succ_of_ne_zero (Nat.ne_of_gt hk)
  have hhead := head?_digitTexts hn
  have hdigits := isDigit_digitTexts n
  have hne := digitTexts_ne_nil n
  cases hds : digitTexts n with
  | nil => exact absurd hds hne
  | cons c cs =>
    rw [hds] at hhead hdigits
    rw [List.take_succ_cons]
    exact ⟨fun c hc => hdigits c (List.mem_of_mem_take (i := k + 1) hc), nofun, fun h => hhead h.2⟩

lemma lt_pow_length (n : ℕ) : n < 10 ^ (digitTexts n).length := by
  have hlength : 0 < (Nat.toDigits 10 n).length := Nat.length_toDigits_pos
  rw [digitTexts, Nat.toList_repr]
  exact (Nat.length_toDigits_le_iff (by decide) hlength).1 (le_refl _)

/-- A text that is read as a few digits at a place; what they stand for is the value of `d`. -/
def Reads (negative : Bool) (cs : List Char) (d : Digits) : Prop :=
  ∃ (n : ℕ) (i : ℤ), 0 < n ∧ n ≤ 10 ^ 17 ∧ (n : ℚ) * 10 ^ i = d.value ∧
    magnitude? negative cs = (scaled? n i).map fun x => .float (signed negative x)

structure Few (d : Digits) : Prop where
  pos : 0 < d.digits
  le : d.digits ≤ 10 ^ 17

lemma Few.size (h : Few d) : d.digits < UInt64.size := h.le.trans_lt (by decide)

lemma Few.reads (h : Few d) {cs : List Char} (hread : magnitude? negative cs =
    (scaled? d.digits d.exponent).map fun x => .float (signed negative x)) : Reads negative cs d :=
  ⟨_, _, h.pos, h.le, rfl, hread⟩

lemma exponent?_digitTexts (w : ℤ) :
    exponent? ((if w < 0 then '-' else '+') :: digitTexts w.natAbs) = some w := by
  have hnatural : exponent?.natural (digitTexts w.natAbs) = some (w.natAbs : ℤ) := by
    have hall : (digitTexts w.natAbs).all Char.isDigit = true :=
      List.all_eq_true.2 (isDigit_digitTexts _)
    rw [exponent?.natural, readDigits_digitTexts, hall, if_neg]
    simp [digitTexts_ne_nil]
  split
  · rename_i hneg
    change (exponent?.natural _).map (- ·) = _
    rw [hnatural, Option.map_some]
    congr 1
    omega
  · rename_i hneg
    change exponent?.natural _ = _
    rw [hnatural]
    congr 1
    omega

lemma reads_scientific (hd : Few d) : Reads negative (Decimal.Layout.scientific d) d := by
  have hweight := exponent?_digitTexts ((digitTexts d.digits).length + d.exponent - 1)
  have hlength : 0 < (digitTexts d.digits).length := List.length_pos_iff.2 (digitTexts_ne_nil _)
  have hsize := hd.size
  rw [← readDigits_digitTexts d.digits] at hsize
  apply hd.reads
  simp only [Decimal.Layout.scientific]
  generalize hw : ((digitTexts d.digits).length + d.exponent - 1 : ℤ) = w at hweight ⊢
  split
  · rename_i hone
    have htake : (digitTexts d.digits).take 1 = digitTexts d.digits := List.take_of_length_le hone
    rw [htake, List.append_nil, magnitude?_exponent (leading_digitTexts hd.pos) hweight hsize,
      readDigits_digitTexts]
    congr 2
    omega
  · rename_i hmany
    rw [← List.take_append_drop 1 (digitTexts d.digits)] at hsize
    have hpoint := magnitude?_point negative (leading_take hd.pos Nat.one_pos)
      (isDigit_drop 1 d.digits) (fun h => hmany (List.drop_eq_nil_iff.1 h)) (.exponent hweight)
      hsize
    rw [List.take_append_drop, readDigits_digitTexts, List.length_drop] at hpoint
    rw [List.append_assoc, List.cons_append, hpoint]
    congr 2
    omega

lemma digitTexts_mul_pow (hn : 0 < n) (k : ℕ) :
    digitTexts n ++ List.replicate k '0' ++ ['0'] = digitTexts (n * 10 ^ (k + 1)) := by
  rw [digitTexts, digitTexts, Nat.toList_repr, Nat.toList_repr, Decimal.toDigits_mul_pow hn,
    List.append_assoc, List.replicate_succ']

lemma reads_pointZero (hd : Few d) (hk : d.exponent = k)
    (hplaces : (digitTexts d.digits).length + k ≤ 16) :
    Reads negative (digitTexts d.digits ++ List.replicate k '0' ++ ['.', '0']) d := by
  have hleading : Leading (digitTexts d.digits ++ List.replicate k '0') := by
    have hds := leading_digitTexts hd.pos
    refine ⟨List.forall_mem_append.2 ⟨hds.digits, isDigit_zeros k⟩, by simp [hds.nonempty], ?_⟩
    rintro ⟨_, hhead⟩
    rw [List.head?_append_of_ne_nil _ hds.nonempty] at hhead
    exact head?_digitTexts hd.pos hhead
  have hle : d.digits * 10 ^ (k + 1) ≤ 10 ^ 17 := by
    calc d.digits * 10 ^ (k + 1) ≤ 10 ^ (digitTexts d.digits).length * 10 ^ (k + 1) :=
        Nat.mul_le_mul_right _ (lt_pow_length _).le
      _ = 10 ^ ((digitTexts d.digits).length + (k + 1)) := (Nat.pow_add ..).symm
      _ ≤ 10 ^ 17 := Nat.pow_le_pow_right (by decide) (by omega)
  have hread := readDigits_digitTexts (d.digits * 10 ^ (k + 1))
  rw [← digitTexts_mul_pow hd.pos] at hread
  have hpoint := magnitude?_point negative hleading (by simp) (List.cons_ne_nil '0' []) .plain
    (hread ▸ hle.trans_lt (by decide))
  rw [hread] at hpoint
  refine ⟨_, _, Nat.mul_pos hd.pos (Nat.pow_pos (by decide)), hle, ?_, hpoint⟩
  rw [Digits.value, hk]
  push_cast
  rw [zpow_natCast, pow_succ]
  norm_num
  ring

lemma reads_positional (hd : Few d) (hplaces : (digitTexts d.digits).length + d.exponent ≤ 16) :
    Reads negative (floatLayout.positional d) d := by
  have hsize := hd.size
  rw [← readDigits_digitTexts d.digits] at hsize
  simp only [Decimal.Layout.positional]
  generalize hpoint : ((digitTexts d.digits).length + d.exponent : ℤ) = places at hplaces
  split
  · rename_i hexponent
    obtain ⟨k, hk⟩ := Int.eq_ofNat_of_zero_le hexponent
    rw [hk, Int.toNat_natCast]
    exact reads_pointZero hd hk (by omega)
  · rename_i hexponent
    apply hd.reads
    split
    · rename_i hinside
      have hbefore : 0 < places.toNat := by omega
      rw [← List.take_append_drop places.toNat (digitTexts d.digits)] at hsize
      have hread := magnitude?_point negative (leading_take hd.pos hbefore)
        (isDigit_drop places.toNat d.digits)
        (fun h => absurd (List.drop_eq_nil_iff.1 h) (by omega)) .plain hsize
      rw [List.take_append_drop, readDigits_digitTexts, List.length_drop, List.append_nil] at hread
      rw [hread]
      congr 2
      omega
    · rename_i houtside
      have hzero : Leading ['0'] := ⟨by simp, by simp, by simp⟩
      have hdigits := List.forall_mem_append.2
        ⟨isDigit_zeros (-places).toNat, isDigit_digitTexts d.digits⟩
      have hzeros := readDigits_zeros ((-places).toNat + 1) (digitTexts d.digits)
      have hread := magnitude?_point negative hzero hdigits (by simp [digitTexts_ne_nil]) .plain
        (hzeros ▸ hsize)
      rw [List.append_nil] at hread
      change magnitude? negative (['0'] ++ '.' :: _) = _
      rw [hread]
      rw [readDigits_digitTexts] at hzeros
      rw [List.length_append, List.length_replicate]
      have hcast : (0 : ℤ) - ((-places).toNat + (digitTexts d.digits).length : ℕ) =
        d.exponent := by omega
      rw [hcast]
      exact congrArg (fun n => (scaled? n d.exponent).map fun x => Number.float (signed negative x))
        hzeros

end Digits

section Floats

open Float.Model Float.Model.UnpackedFloat

variable {x : Float} {s : Sign} {m : ℕ} {e : ℤ}

lemma reads_magnitude (negative : Bool) {b : Binary} (hb : b.Proper) :
    Reads negative (floatLayout.magnitude b) (b.shortest .even) := by
  have hdigits : Few (b.shortest .even) := ⟨hb.digits_pos .even, hb.shortest_le .even⟩
  rw [Decimal.Layout.magnitude, if_neg (Nat.ne_of_gt hb.pos)]
  simp only
  split
  · rename_i hplain
    have hplain := (of_decide_eq_true hplain).2
    exact reads_positional hdigits (by omega)
  · exact reads_scientific hdigits

lemma exists_magnitude? (negative : Bool) {b : Binary} (hb : b.Proper) (he : b.exponent ≤ 971) :
    ∃ x, magnitude? negative (floatLayout.magnitude b) = some (.float x) := by
  obtain ⟨n, i, hpos, hn, hvalue, hread⟩ := reads_magnitude negative hb
  obtain ⟨x, hx⟩ := Token.exists_scaled? hpos hn (hvalue.trans_le (hb.value_le_top he .even))
  rw [hread, hx]
  exact ⟨_, rfl⟩

lemma magnitude?_sign (negative : Bool) (cs : List Char) :
    magnitude? negative ('-' :: cs) = none := by
  have htake : ('-' :: cs).takeWhile Char.isDigit = [] := List.takeWhile_cons_of_neg (by decide)
  simp [magnitude?, htake]

lemma number?_of_magnitude? {cs : List Char} {a : Number} (h : magnitude? false cs = some a) :
    number? cs = some a := by
  rw [number?]
  · exact h
  · rintro more rfl
    rw [magnitude?_sign] at h
    cases h

lemma text_eq (h : x.isFinite = true) :
    (floatLayout.text x).toList =
      if x.toBits >>> 63 = 1 then '-' :: floatLayout.magnitude (.ofBits x.toBits)
      else floatLayout.magnitude (.ofBits x.toBits) := by
  have hspecial : x.isNaN = false ∧ x.isInf = false := by
    change x.toModel.unpack.isNaN = false ∧ x.toModel.unpack.isInf = false
    change x.toModel.unpack.isFinite = true at h
    cases hx : x.toModel.unpack with
    | infinity | notANumber =>
      rw [hx] at h
      cases h
    | zero | finite => exact ⟨rfl, rfl⟩
  have hzero : ¬ ((x == 0) = true ∧ (!floatLayout.signedZero) = true) := fun h => nomatch h.2
  rw [Decimal.Layout.text, hspecial.1, hspecial.2, if_neg Bool.false_ne_true,
    if_neg Bool.false_ne_true, if_neg hzero]
  beta_reduce
  split
  · rw [String.toList_append]
    exact congrArg ('-' :: ·) String.toList_ofList
  · exact String.toList_ofList

theorem exists_number? (h : x.isFinite = true) :
    ∃ y, number? (floatLayout.text x).toList = some (.float y) := by
  have hproper := Decimal.proper_of_isFinite h
  rw [text_eq h]
  change x.toModel.unpack.isFinite = true at h
  generalize hu : x.toModel.unpack = u at h hproper
  cases hproper with
  | infinity => cases h
  | zero s =>
    have hmantissa : (Binary.ofBits x.toBits).mantissa = 0 := Decimal.mantissa_of_unpack_zero hu
    have hmagnitude : floatLayout.magnitude (.ofBits x.toBits) = ['0', '.', '0'] := by
      rw [Decimal.Layout.magnitude, if_pos hmantissa]
      rfl
    rw [hmagnitude]
    split
    · exact ⟨-0.0, by decide +kernel⟩
    · exact ⟨0, by decide +kernel⟩
  | finite s hm hcanonical he =>
    obtain ⟨hb, he⟩ := Decimal.proper_ofBits hu
    split
    · exact exists_magnitude? true hb he
    · obtain ⟨y, hy⟩ := exists_magnitude? false hb he
      exact ⟨y, number?_of_magnitude? hy⟩

-- the number that is read need not be the one that was written
example : number? "968.7302436888135".toList = some (.float 968.7302436888136) := by decide +kernel

end Floats

end Json

end Tabletop
