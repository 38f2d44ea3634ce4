import CaptureReport.Report.Width
import Mathlib.Data.List.TakeWhile

/-!
# Numbers written and read back

A text **spells** a number if, between blanks, it is one or more digits, with a plus sign in front or
without one. Trimming a text and reading it as a word gives the number that the text spells, as long
as it fits in a word; there is nothing else that is read.

A number that is written in decimal is a numeral, and a numeral has no sign to drop and no blanks to
trim. So it is read back as itself, or not at all if it does not fit in a word; in particular the
width of a report survives being handed on as a text.

## Main results

* `Text.word?_trim_eq_some_iff`: the texts that are read as a word.
* `Text.numeral?_repr`, `Text.word?_repr`: what reading makes of a number that was written.
* `Report.parseWidth_eq_ok_iff_spells`: the texts that are read as a width.
* `Report.eq_of_chosenWidth_repr`: a width that was written is read back as itself.
-/

namespace CaptureReport

namespace Text

variable {cs : List Char}

/-! ### Rows of digits -/

theorem isBlank_of_isDigit {c : Char} (h : c.isDigit = true) : isBlank c = false := by
  have hdigit : 48 ≤ c.toNat ∧ c.toNat ≤ 57 := Char.isDigit_iff_toNat.mp h
  have houtside : ∀ range ∈ blankRanges, range.2 < 48 ∨ 57 < range.1 := by decide
  rw [isBlank, List.any_eq_false]
  intro range hmem
  have hne := houtside range hmem
  simp only [Bool.and_eq_true, decide_eq_true_eq]
  omega

/-- There is nothing to trim of a row of digits. -/
theorem trim_of_isDigit (h : ∀ c ∈ cs, c.isDigit = true) : trim cs = cs := by
  apply trim_eq_self
  · intro c hc
    exact isBlank_of_isDigit (h c (List.mem_of_mem_head? hc))
  · intro c hc
    exact isBlank_of_isDigit (h c (List.mem_of_getLast? hc))

/-- A row of digits has no sign. -/
theorem dropPlus_of_isDigit (h : ∀ c ∈ cs, c.isDigit = true) : dropPlus cs = cs := by
  rw [dropPlus]
  rintro rest rfl
  exact absurd (h '+' List.mem_cons_self) (by decide)

/-! ### Numbers that are spelled -/

/-- Between the blanks that are trimmed stands the trimmed text. -/
theorem exists_append_trim (cs : List Char) :
    ∃ front back, cs = front ++ trim cs ++ back ∧
      (∀ c ∈ front, isBlank c = true) ∧ ∀ c ∈ back, isBlank c = true := by
  refine ⟨cs.takeWhile isBlank, ((trimStart cs).reverse.takeWhile isBlank).reverse, ?_, ?_, ?_⟩
  · have hend : trim cs ++ ((trimStart cs).reverse.takeWhile isBlank).reverse = trimStart cs := by
      rw [trim, trimEnd, ← List.reverse_append, List.takeWhile_append_dropWhile,
        List.reverse_reverse]
    rw [List.append_assoc, hend, trimStart, List.takeWhile_append_dropWhile]
  · exact fun c hc => List.mem_takeWhile_imp hc
  · exact fun c hc => List.mem_takeWhile_imp (List.mem_reverse.mp hc)

/-- Blanks around a text that neither starts nor ends with one are trimmed, and nothing else. -/
theorem trim_append {front cs back : List Char} (hfront : ∀ c ∈ front, isBlank c = true)
    (hback : ∀ c ∈ back, isBlank c = true) (hne : cs ≠ [])
    (hfirst : ∀ c ∈ cs.head?, isBlank c = false) (hlast : ∀ c ∈ cs.getLast?, isBlank c = false) :
    trim (front ++ cs ++ back) = cs := by
  obtain ⟨first, rest, rfl⟩ := List.exists_cons_of_ne_nil hne
  have hstart : trimStart (front ++ (first :: rest) ++ back) = first :: rest ++ back := by
    rw [List.append_assoc, trimStart, List.dropWhile_append_of_pos hfront]
    exact trimStart_cons_of_not_blank (hfirst first rfl) (rest ++ back)
  have hend : trimEnd (first :: rest ++ back) = trimEnd (first :: rest) := by
    rw [trimEnd, List.reverse_append, List.dropWhile_append_of_pos
      (fun c hc => hback c (List.mem_reverse.mp hc)), trimEnd]
  have hself := trim_eq_self hfirst hlast
  rw [trim, trimStart_cons_of_not_blank (hfirst first rfl)] at hself
  rw [trim, hstart, hend, hself]

/-- A numeral behind a sign, or without one. -/
theorem numeral?_dropPlus_eq_some_iff {n : Nat} :
    numeral? (dropPlus cs) = some n ↔
      ∃ sign digits, cs = sign ++ digits ∧ (sign = [] ∨ sign = ['+']) ∧ digits ≠ [] ∧
        (∀ c ∈ digits, c.isDigit = true) ∧ ofDigits digits = n := by
  constructor
  · intro h
    rw [dropPlus.eq_def] at h
    split at h
    · rename_i digits
      exact ⟨['+'], digits, rfl, .inr rfl, numeral?_eq_some_iff.mp h⟩
    · exact ⟨[], cs, rfl, .inl rfl, numeral?_eq_some_iff.mp h⟩
  · rintro ⟨sign, digits, rfl, rfl | rfl, hnumeral⟩
    · rw [List.nil_append, dropPlus_of_isDigit hnumeral.2.1]
      exact numeral?_eq_some_iff.mpr hnumeral
    · exact numeral?_eq_some_iff.mpr hnumeral

/-- A text **spells** a number if it is a row of digits of that value, with or without a plus sign
right in front of it, and blanks at either end. -/
def Spells (cs : List Char) (n : Nat) : Prop :=
  ∃ front sign digits back, cs = front ++ (sign ++ digits) ++ back ∧
    (∀ c ∈ front, isBlank c = true) ∧ (∀ c ∈ back, isBlank c = true) ∧
    (sign = [] ∨ sign = ['+']) ∧ digits ≠ [] ∧ (∀ c ∈ digits, c.isDigit = true) ∧
    ofDigits digits = n

/-- A row of digits, with or without a sign, has no blank at either end. -/
theorem not_blank_of_spelled {sign digits : List Char} (hsign : sign = [] ∨ sign = ['+'])
    (hdigits : ∀ c ∈ digits, c.isDigit = true) : ∀ c ∈ sign ++ digits, isBlank c = false := by
  intro c hc
  rcases List.mem_append.mp hc with hplus | hdigit
  · rcases hsign with rfl | rfl
    · cases hplus
    · rw [List.mem_singleton.mp hplus]
      decide
  · exact isBlank_of_isDigit (hdigits c hdigit)

/-- **A trimmed text is read as the number that the text spells**, if the number fits in a word. -/
theorem word?_trim_eq_some_iff {n : Nat} :
    word? (trim cs) = some n ↔ Spells cs n ∧ n < wordLimit := by
  rw [word?_eq_some_iff, numeral?_dropPlus_eq_some_iff]
  refine and_congr_left fun _ => ⟨?_, ?_⟩
  · rintro ⟨sign, digits, htrim, hrest⟩
    obtain ⟨front, back, hcs, hfront, hback⟩ := exists_append_trim cs
    rw [htrim] at hcs
    exact ⟨front, sign, digits, back, hcs, hfront, hback, hrest⟩
  · rintro ⟨front, sign, digits, back, rfl, hfront, hback, hsign, hne, hdigits, hvalue⟩
    have hplain := not_blank_of_spelled hsign hdigits
    have htrim : trim (front ++ (sign ++ digits) ++ back) = sign ++ digits :=
      trim_append hfront hback (List.append_ne_nil_of_right_ne_nil _ hne)
        (fun c hc => hplain c (List.mem_of_mem_head? hc))
        (fun c hc => hplain c (List.mem_of_getLast? hc))
    exact ⟨sign, digits, htrim, hsign, hne, hdigits, hvalue⟩

/-! ### Numbers that were written -/

theorem isDigit_of_mem_repr (n : Nat) : ∀ c ∈ n.repr.toList, c.isDigit = true := by
  intro c hc
  rw [Nat.toList_repr] at hc
  exact Nat.isDigit_of_mem_toDigits (by decide) (by decide) hc

/-- **A number that was written is a numeral of that value.** -/
theorem numeral?_repr (n : Nat) : numeral? n.repr.toList = some n := by
  refine numeral?_eq_some_iff.mpr ⟨?_, isDigit_of_mem_repr n, ?_⟩
  · rw [Nat.toList_repr]
    exact Nat.toDigits_ne_nil
  · rw [Nat.toList_repr]
    exact Nat.ofDigitChars_ten_toDigits

/-- A number that was written is read as a word if it fits in one. -/
theorem word?_repr (n : Nat) : word? n.repr.toList = (some n).filter (· < wordLimit) := by
  rw [word?, dropPlus_of_isDigit (isDigit_of_mem_repr n), numeral?_repr]

end Text

namespace Report

/-- A text is read as the width that it spells, if that is positive and fits in a word. -/
theorem parseWidth_eq_ok_iff_spells {text : String} {n : Nat} :
    parseWidth text = .ok n ↔ Text.Spells text.toList n ∧ 1 ≤ n ∧ n < Text.wordLimit := by
  rw [parseWidth_eq_ok_iff, Text.word?_trim_eq_some_iff, and_assoc, and_comm (b := 0 < n)]
  rfl

/-- A text that is not read is refused as it was given. -/
theorem parseWidth_eq_error {text : String} (h : ∀ n, parseWidth text ≠ .ok n) :
    parseWidth text = .error (.badWidth text) := by
  rw [parseWidth] at h ⊢
  split
  · rename_i n hword
    simp [hword] at h
  · rfl

/-- A width that was written is read back if it is positive and fits in a word. -/
theorem parseWidth_repr {n : Nat} (hpos : 1 ≤ n) (hfits : n < Text.wordLimit) :
    parseWidth n.repr = .ok n := by
  refine parseWidth_eq_ok_iff.mpr ⟨?_, hpos⟩
  rw [Text.trim_of_isDigit (Text.isDigit_of_mem_repr n), Text.word?_repr]
  exact Option.filter_some_pos (by simpa using hfits)

/-- A width that was written is not the empty text, which stands for the default. -/
theorem chosenWidth_repr (n : Nat) : chosenWidth (some n.repr) = parseWidth n.repr := by
  rw [chosenWidth]
  exact Nat.repr_ne_empty

/-- **A width that was written is read back as itself.** -/
theorem eq_of_chosenWidth_repr {n width : Nat} (h : chosenWidth (some n.repr) = .ok width) :
    width = n := by
  rw [chosenWidth_repr] at h
  obtain ⟨hword, -⟩ := parseWidth_eq_ok_iff.mp h
  rw [Text.trim_of_isDigit (Text.isDigit_of_mem_repr n), Text.word?_repr] at hword
  obtain ⟨hsome, -⟩ := Option.filter_eq_some_iff.mp hword
  exact (Option.some.inj hsome).symm

end Report

end CaptureReport
