import CaptureReport.Proofs.Text.Decimal
import CaptureReport.Text.Scaled
import Mathlib.Algebra.Order.Field.Rat
import Mathlib.Data.List.TakeWhile
import Mathlib.Tactic.FieldSimp
import Mathlib.Tactic.Ring

/-!
# Scaled quantities are exact

An **amount** is what a scaled text shows: a scale, a whole part and the digits of a fraction. It
stands for a number, and it is **canonical** if the whole part has at most three digits, is not zero
above the first scale, and the fraction has no more digits than the scale has zeros and no zero at
its end.

Every 64-bit value is shown as a canonical amount that stands for exactly this value. The parts of
an amount can be told from its text, since only the blank before the symbol is a blank and only the
point before the fraction is a point; so different values never have the same text.

The scale can be found in words. A divisor that starts at one and is multiplied by one thousand as
long as three digits are not enough goes through the divisors of the scales, none of which is too
large for a word.

## Main results

* `climb_spec`: the scale of a value is found without leaving the words.
* `number_amountOf`: the amount that is shown stands for the value.
* `Amount.eq_of_text_eq`: the text tells the amount.
* `scaledText_canonical`: what that means for the texts of values.
-/

namespace CaptureReport.Text

/-! ### The scale of a value -/

theorem scaleDivisor_pos (e : Nat) : 0 < scaleDivisor e :=
  Nat.pow_pos (by decide)

theorem scaleDivisor_succ (e : Nat) : scaleDivisor (e + 1) = scaleDivisor e * 1000 :=
  Nat.pow_succ 1000 e

/-- The divisors of all scales fit in a word. -/
theorem scaleDivisor_lt {e : Nat} (h : e ≤ 6) : scaleDivisor e < wordLimit :=
  calc scaleDivisor e ≤ scaleDivisor 6 := Nat.pow_le_pow_right (by decide) h
    _ < wordLimit := by decide

/-- Below its scale, three digits are not enough for a value. -/
theorem le_div_of_lt_scale {value e : Nat} (h : e < scale value) :
    1000 ≤ value / scaleDivisor e := by
  have hle := scale_le value
  rw [scale] at h hle
  cases hfind : (List.range 6).find? fun e => value / scaleDivisor e < 1000 with
  | none =>
    rw [hfind, Option.getD_none] at h
    simpa using List.find?_range_eq_none.mp hfind e h
  | some found =>
    rw [hfind, Option.getD_some] at h
    simpa using (List.find?_range_eq_some.mp hfind).2.2 e h

/-- At its scale they are enough for a value that fits in a word. -/
theorem div_scale_lt {value : Nat} (h : value < wordLimit) :
    value / scaleDivisor (scale value) < 1000 := by
  rcases Nat.lt_or_eq_of_le (scale_le value) with hlt | hlast
  · exact quotient_lt hlt
  · have hbound : wordLimit ≤ 1000 * scaleDivisor 6 := by decide
    rw [hlast, Nat.div_lt_iff_lt_mul (scaleDivisor_pos 6)]
    omega

/-- Above the first scale the whole part is not zero. -/
theorem div_scale_pos {value : Nat} (h : 0 < scale value) :
    0 < value / scaleDivisor (scale value) := by
  obtain ⟨e, he⟩ : ∃ e, scale value = e + 1 := ⟨scale value - 1, by omega⟩
  have hbelow : 1000 ≤ value / scaleDivisor e := le_div_of_lt_scale (by omega)
  rw [he, scaleDivisor_succ, ← Nat.div_div_eq_div_mul]
  exact Nat.div_pos hbelow (by decide)

/-- Looks for the scale of a value in words, at most so many times. -/
def climb (value : UInt64) : (rounds e : Nat) → (divisor : UInt64) → Nat × UInt64
  | 0, e, divisor => (e, divisor)
  | rounds + 1, e, divisor =>
    if value / divisor < 1000 then (e, divisor)
    else climb value rounds (e + 1) (divisor * 1000)

/-- **The scale of a value is found in words**, from any scale on that is not above it, and so is
its divisor. -/
theorem climb_spec {value : UInt64} {rounds e : Nat} {divisor : UInt64} (hrounds : e + rounds = 6)
    (hdivisor : divisor.toNat = scaleDivisor e) (hle : e ≤ scale value.toNat) :
    (climb value rounds e divisor).1 = scale value.toNat ∧
      (climb value rounds e divisor).2.toNat = scaleDivisor (scale value.toNat) := by
  induction rounds generalizing e divisor with
  | zero =>
    have hlast : e = scale value.toNat := by
      have hmost := scale_le value.toNat
      omega
    rw [climb, ← hlast]
    exact ⟨rfl, hdivisor⟩
  | succ rounds ih =>
    have hquotient : value / divisor < 1000 ↔ value.toNat / scaleDivisor e < 1000 := by
      rw [UInt64.lt_iff_toNat_lt, UInt64.toNat_div, hdivisor]
      rfl
    rw [climb]
    split
    · rename_i hfound
      have hnot : ¬ e < scale value.toNat := by
        intro hlt
        exact Nat.not_lt.mpr (le_div_of_lt_scale hlt) (hquotient.mp hfound)
      have heq : e = scale value.toNat := by omega
      rw [← heq]
      exact ⟨rfl, hdivisor⟩
    · rename_i hmore
      have hne : e ≠ scale value.toNat := by
        intro heq
        refine hmore (hquotient.mpr ?_)
        rw [heq]
        exact div_scale_lt value.toNat_lt
      -- The product is the divisor of the next scale, which there still is, and does not wrap.
      have hnext : (divisor * 1000).toNat = scaleDivisor (e + 1) := by
        rw [UInt64.toNat_mul, hdivisor, scaleDivisor_succ]
        apply Nat.mod_eq_of_lt
        rw [show (1000 : UInt64).toNat = 1000 from rfl, ← scaleDivisor_succ]
        exact scaleDivisor_lt (by omega)
      exact ih (by omega) hnext (by omega)

/-! ### Digits of a fraction -/

/-- Zeros at the end of a row of digits are factors of ten. -/
theorem ofDigits_append_zeros (cs : List Char) (count : Nat) :
    ofDigits (cs ++ List.replicate count '0') = ofDigits cs * 10 ^ count := by
  have happend : ofDigits (cs ++ List.replicate count '0')
      = Nat.ofDigitChars 10 (List.replicate count '0') (ofDigits cs) :=
    Nat.ofDigitChars_append 0
  rw [happend, Nat.ofDigitChars_replicate_zero, Nat.mul_comm]

/-- Zeros in front of a number do not change it. -/
theorem ofDigits_paddedDigits (width n : Nat) : ofDigits (paddedDigits width n) = n := by
  have happend : ofDigits (paddedDigits width n)
      = Nat.ofDigitChars 10 (Nat.toDigits 10 n)
          (ofDigits (List.replicate (width - (Nat.toDigits 10 n).length) '0')) :=
    Nat.ofDigitChars_append 0
  have hzeros : ∀ count, ofDigits (List.replicate count '0') = 0 := by
    intro count
    have hnil := ofDigits_append_zeros [] count
    rw [List.nil_append] at hnil
    rw [hnil]
    exact Nat.zero_mul _
  rw [happend, hzeros, Nat.ofDigitChars_ten_toDigits]

theorem isDigit_of_mem_paddedDigits {width n : Nat} {c : Char} (h : c ∈ paddedDigits width n) :
    c.isDigit = true := by
  rw [paddedDigits, List.leftpad, List.mem_append] at h
  rcases h with hzero | hdigit
  · rw [List.eq_of_mem_replicate hzero]
    decide
  · exact Nat.isDigit_of_mem_toDigits (by decide) (by decide) hdigit

/-- A number below a power of ten is padded to as many digits as the power has zeros. -/
theorem length_paddedDigits {width n : Nat} (hwidth : 0 < width) (h : n < 10 ^ width) :
    (paddedDigits width n).length = width := by
  have hle := (Nat.length_toDigits_le_iff (by decide : 1 < 10) hwidth).mpr h
  rw [paddedDigits, List.leftpad, List.length_append, List.length_replicate]
  omega

/-- Dropping the zeros at the end of a row of digits takes nothing but zeros away. -/
theorem dropTrailingZeros_append (cs : List Char) :
    ∃ count, cs = dropTrailingZeros cs ++ List.replicate count '0' := by
  refine ⟨(cs.reverse.takeWhile (· = '0')).length, ?_⟩
  have hzeros : cs.reverse.takeWhile (· = '0')
      = List.replicate (cs.reverse.takeWhile (· = '0')).length '0' := by
    refine List.eq_replicate_iff.mpr ⟨rfl, fun c hc => ?_⟩
    simpa using List.mem_takeWhile_imp hc
  rw [← List.reverse_inj, List.reverse_append, List.reverse_replicate, ← hzeros, dropTrailingZeros,
    List.reverse_reverse, List.takeWhile_append_dropWhile]

theorem isDigit_of_mem_dropTrailingZeros {width n : Nat} {c : Char}
    (h : c ∈ dropTrailingZeros (paddedDigits width n)) : c.isDigit = true := by
  obtain ⟨count, hcount⟩ := dropTrailingZeros_append (paddedDigits width n)
  have hpadded : c ∈ paddedDigits width n := by
    rw [hcount]
    exact List.mem_append_left _ h
  exact isDigit_of_mem_paddedDigits hpadded

theorem getLast?_dropTrailingZeros (cs : List Char) :
    (dropTrailingZeros cs).getLast? ≠ some '0' := by
  intro hlast
  have hhead := List.head?_dropWhile_not (· = '0') cs.reverse
  rw [dropTrailingZeros, List.getLast?_reverse] at hlast
  simp [hlast] at hhead

/-- Dropping the zeros at the end of a padded number keeps its value, if the places that are left
are counted from the front. -/
theorem dropTrailingZeros_paddedDigits {width n : Nat} (hwidth : 0 < width) (h : n < 10 ^ width) :
    (dropTrailingZeros (paddedDigits width n)).length ≤ width ∧
      ofDigits (dropTrailingZeros (paddedDigits width n))
        * 10 ^ (width - (dropTrailingZeros (paddedDigits width n)).length) = n := by
  obtain ⟨count, hcount⟩ := dropTrailingZeros_append (paddedDigits width n)
  have hlength := congrArg List.length hcount
  have hnumber := congrArg ofDigits hcount
  rw [length_paddedDigits hwidth h, List.length_append, List.length_replicate] at hlength
  rw [ofDigits_paddedDigits, ofDigits_append_zeros] at hnumber
  refine ⟨by omega, ?_⟩
  rw [show width - (dropTrailingZeros (paddedDigits width n)).length = count by omega]
  exact hnumber.symm

/-! ### Amounts -/

/-- An **amount**: a whole part, and the digits of a fraction, at a scale. -/
structure Amount where
  scale : Nat
  whole : Nat
  fraction : List Char
  deriving DecidableEq, Repr

namespace Amount

/-- The number that an amount stands for. -/
def number (a : Amount) : ℚ :=
  (a.whole + ofDigits a.fraction / 10 ^ a.fraction.length) * 1000 ^ a.scale

/-- The digits of an amount, with a point before the fraction if there is one. -/
def digits (a : Amount) : List Char :=
  Nat.toDigits 10 a.whole ++ if a.fraction = [] then [] else '.' :: a.fraction

/-- How an amount of some unit is written. -/
def text (a : Amount) (unit : String) : String :=
  String.ofList a.digits ++ " " ++ scaleSymbols.getD a.scale "" ++ unit

/-- An amount is **canonical** if it is written with no digit that could be spared. -/
structure IsCanonical (a : Amount) : Prop where
  scale_le : a.scale ≤ 6
  whole_le : a.whole ≤ 999
  whole_pos : 0 < a.scale → 1 ≤ a.whole
  length_le : a.fraction.length ≤ 3 * a.scale
  isDigit : ∀ c ∈ a.fraction, c.isDigit = true
  noZero : a.fraction.getLast? ≠ some '0'

variable {a a' : Amount}

theorem notMem_toDigits {c : Char} (hc : c.isDigit = false) (n : Nat) :
    c ∉ Nat.toDigits 10 n := by
  intro hmem
  rw [Nat.isDigit_of_mem_toDigits (by decide) (by decide) hmem] at hc
  cases hc

theorem IsCanonical.blank_notMem (h : a.IsCanonical) : ' ' ∉ a.digits := by
  rw [digits, List.mem_append]
  rintro (hwhole | hfraction)
  · exact notMem_toDigits (by decide) _ hwhole
  · split at hfraction
    · cases hfraction
    · rcases List.mem_cons.mp hfraction with hpoint | hdigit
      · cases hpoint
      · cases h.isDigit _ hdigit

/-- The symbols of the scales are different. -/
theorem scale_eq_of_symbol_eq {e e' : Nat} (he : e ≤ 6) (he' : e' ≤ 6)
    (h : scaleSymbols.getD e "" = scaleSymbols.getD e' "") : e = e' := by
  have hall : ∀ i ∈ List.range 7, ∀ j ∈ List.range 7,
      scaleSymbols.getD i "" = scaleSymbols.getD j "" → i = j := by
    decide
  exact hall e (List.mem_range.mpr (by omega)) e' (List.mem_range.mpr (by omega)) h

/-- Two texts that are cut at the first place of a character are equal piece by piece. -/
theorem eq_of_append_cons_eq {c : Char} {front front' rest rest' : List Char} (hfront : c ∉ front)
    (hfront' : c ∉ front') (h : front ++ c :: rest = front' ++ c :: rest') :
    front = front' ∧ rest = rest' := by
  have hplace := congrArg (List.idxOf c) h
  rw [List.idxOf_append_of_notMem hfront, List.idxOf_append_of_notMem hfront', List.idxOf_cons_self,
    List.idxOf_cons_self] at hplace
  obtain ⟨heq, hrest⟩ := List.append_inj h hplace
  exact ⟨heq, (List.cons.inj hrest).2⟩

/-- The digits of an amount tell its whole part and its fraction. -/
theorem parts_eq_of_digits_eq (h : a.digits = a'.digits) :
    a.whole = a'.whole ∧ a.fraction = a'.fraction := by
  have hpoint : ∀ n, '.' ∉ Nat.toDigits 10 n := notMem_toDigits (by decide)
  have hwhole : Nat.toDigits 10 a.whole = Nat.toDigits 10 a'.whole → a.whole = a'.whole := by
    intro heq
    rw [← Nat.ofDigitChars_ten_toDigits (n := a.whole), heq, Nat.ofDigitChars_ten_toDigits]
  rw [digits, digits] at h
  by_cases hnil : a.fraction = []
  · by_cases hnil' : a'.fraction = []
    · rw [if_pos hnil, if_pos hnil', List.append_nil, List.append_nil] at h
      exact ⟨hwhole h, hnil.trans hnil'.symm⟩
    · rw [if_pos hnil, if_neg hnil', List.append_nil] at h
      exact absurd (h ▸ List.mem_append_right _ List.mem_cons_self) (hpoint a.whole)
  · by_cases hnil' : a'.fraction = []
    · rw [if_neg hnil, if_pos hnil', List.append_nil] at h
      exact absurd (h ▸ List.mem_append_right _ List.mem_cons_self) (hpoint a'.whole)
    · rw [if_neg hnil, if_neg hnil'] at h
      obtain ⟨hfront, hfraction⟩ := eq_of_append_cons_eq (hpoint _) (hpoint _) h
      exact ⟨hwhole hfront, hfraction⟩

/-- **The text tells the amount.** -/
theorem eq_of_text_eq (h : a.IsCanonical) (h' : a'.IsCanonical) {unit : String}
    (htext : a.text unit = a'.text unit) : a = a' := by
  have hchars : a.digits ++ ' ' :: ((scaleSymbols.getD a.scale "").toList ++ unit.toList)
      = a'.digits ++ ' ' :: ((scaleSymbols.getD a'.scale "").toList ++ unit.toList) := by
    have hlists := congrArg String.toList htext
    simpa [text] using hlists
  obtain ⟨hdigits, hsymbols⟩ := eq_of_append_cons_eq h.blank_notMem h'.blank_notMem hchars
  obtain ⟨hwhole, hfraction⟩ := parts_eq_of_digits_eq hdigits
  have hscale : a.scale = a'.scale :=
    scale_eq_of_symbol_eq h.scale_le h'.scale_le
      (String.toList_injective (List.append_cancel_right hsymbols))
  cases a
  cases a'
  simp_all

end Amount

/-! ### The amount that is shown -/

/-- The amount that a value is shown as. -/
def amountOf (value : Nat) : Amount where
  scale := scale value
  whole := value / scaleDivisor (scale value)
  fraction :=
    dropTrailingZeros (paddedDigits (3 * scale value) (value % scaleDivisor (scale value)))

/-- A value below one thousand has no fraction. -/
theorem fraction_amountOf_of_scale_eq_zero {value : Nat} (h : scale value = 0) :
    (amountOf value).fraction = [] := by
  have hrest : value % scaleDivisor 0 = 0 := Nat.mod_one value
  simp only [amountOf, h, hrest, Nat.mul_zero]
  decide

/-- **The text of a value** shows this amount. -/
theorem scaledText_eq_text (value : Nat) (unit : String) :
    scaledText value unit = (amountOf value).text unit := by
  have hfraction : (if scale value = 0 then []
      else fractionText (scale value) (value % scaleDivisor (scale value)))
        = if (amountOf value).fraction = [] then [] else '.' :: (amountOf value).fraction := by
    by_cases hzero : scale value = 0
    · rw [if_pos hzero, if_pos (fraction_amountOf_of_scale_eq_zero hzero)]
    · rw [if_neg hzero, fractionText]
      split
      · rename_i hnil
        exact (if_pos hnil).symm
      · rename_i hcons
        exact (if_neg hcons).symm
  simp only [scaledText, hfraction, Amount.text, Amount.digits, String.ofList_append]
  rfl

/-- The digits of the fraction are the remainder, with as many places as the scale has zeros. -/
theorem ofDigits_fraction_amountOf (value : Nat) :
    (amountOf value).fraction.length ≤ 3 * scale value ∧
      ofDigits (amountOf value).fraction
          * 10 ^ (3 * scale value - (amountOf value).fraction.length)
        = value % scaleDivisor (scale value) := by
  rcases Nat.eq_zero_or_pos (scale value) with hzero | hpos
  · have hrest : value % scaleDivisor 0 = 0 := Nat.mod_one value
    rw [fraction_amountOf_of_scale_eq_zero hzero, hzero, hrest]
    exact ⟨Nat.le_refl 0, rfl⟩
  · have hlt : value % scaleDivisor (scale value) < 10 ^ (3 * scale value) := by
      rw [Nat.pow_mul]
      exact Nat.mod_lt _ (scaleDivisor_pos _)
    exact dropTrailingZeros_paddedDigits (by omega) hlt

/-- **The amount stands for the value.** -/
theorem number_amountOf (value : Nat) : (amountOf value).number = value := by
  obtain ⟨hle, hfraction⟩ := ofDigits_fraction_amountOf value
  have hvalue := Nat.div_add_mod value (scaleDivisor (scale value))
  rw [← hfraction] at hvalue
  have hpow : (1000 : ℚ) ^ scale value
      = 10 ^ (amountOf value).fraction.length
        * 10 ^ (3 * scale value - (amountOf value).fraction.length) := by
    rw [← pow_add, Nat.add_sub_cancel' hle, pow_mul]
    norm_num
  have hten : (10 : ℚ) ^ (amountOf value).fraction.length ≠ 0 := pow_ne_zero _ (by norm_num)
  have hwhole : (amountOf value).whole = value / scaleDivisor (scale value) := rfl
  have hscale : (amountOf value).scale = scale value := rfl
  have hdivisor : (scaleDivisor (scale value) : ℚ) = 1000 ^ scale value := by
    rw [scaleDivisor]
    exact Nat.cast_pow 1000 _
  calc (amountOf value).number
      = 1000 ^ scale value * (amountOf value).whole
          + ofDigits (amountOf value).fraction
            * 10 ^ (3 * scale value - (amountOf value).fraction.length) := by
        rw [Amount.number, hscale, hpow]
        field_simp
    _ = value := by
        rw [← hdivisor, hwhole]
        exact_mod_cast hvalue

theorem isCanonical_amountOf {value : Nat} (h : value < wordLimit) :
    (amountOf value).IsCanonical where
  scale_le := scale_le value
  whole_le := Nat.le_of_lt_succ (div_scale_lt h)
  whole_pos := div_scale_pos
  length_le := (ofDigits_fraction_amountOf value).1
  isDigit _ := isDigit_of_mem_dropTrailingZeros
  noZero := getLast?_dropTrailingZeros _

/-- **The texts of values are exact and canonical.** Whatever the unit, a 64-bit value is shown as a
canonical amount that stands for it, at the scale that is found in words, with divisors that all fit
in one; and no two values have the same text. -/
theorem scaledText_canonical (unit : String) :
    (∀ value : UInt64, ∃ a : Amount,
      scaledText value.toNat unit = a.text unit ∧ a.IsCanonical ∧
      a.whole = value.toNat / 1000 ^ a.scale ∧ a.number = value.toNat ∧
      (climb value 6 0 1).1 = a.scale ∧ (climb value 6 0 1).2.toNat = 1000 ^ a.scale ∧
      ∀ e ≤ a.scale, 1000 ^ e < 2 ^ 64) ∧
    Function.Injective fun value : UInt64 => scaledText value.toNat unit := by
  refine ⟨fun value => ?_, fun value other htext => ?_⟩
  · obtain ⟨hscale, hdivisor⟩ : (climb value 6 0 1).1 = scale value.toNat ∧
        (climb value 6 0 1).2.toNat = scaleDivisor (scale value.toNat) :=
      climb_spec rfl rfl (Nat.zero_le _)
    exact ⟨amountOf value.toNat, scaledText_eq_text _ unit, isCanonical_amountOf value.toNat_lt, rfl,
      number_amountOf _, hscale, hdivisor,
      fun e he => scaleDivisor_lt (Nat.le_trans he (scale_le _))⟩
  · simp only [scaledText_eq_text] at htext
    have hamount := Amount.eq_of_text_eq (isCanonical_amountOf value.toNat_lt)
      (isCanonical_amountOf other.toNat_lt) htext
    have hnumber := congrArg Amount.number hamount
    rw [number_amountOf, number_amountOf] at hnumber
    exact UInt64.toNat_inj.mp (Nat.cast_injective hnumber)

example : scaledText (2 ^ 64 - 1) "B" = "18.446744073709551615 EB" := by
  decide

end CaptureReport.Text
