/-!
# Decimal numerals

Numbers are written in base ten without leading zeros and read in a slightly wider form: a
**word** may carry one leading plus sign and any number of leading zeros, but has to fit in 64
bits. Digits are the ten ASCII digits; no other script's digits count.

## Main results

* `word?_eq_some_iff`: a word is read exactly when it is an optional plus sign followed by a
  numeral below `wordLimit`.
-/

namespace CaptureReport.Text

/-- One more than the largest number that a 64-bit word holds. -/
def wordLimit : Nat := Nat.pow 2 64

/-- The value of one ASCII digit. -/
def digitValue (c : Char) : Nat :=
  c.toNat - '0'.toNat

/-- The number that a row of digits denotes in base ten, most significant digit first. -/
def ofDigits (cs : List Char) : Nat :=
  cs.foldl (fun n c => 10 * n + digitValue c) 0

/-- A **numeral** is one or more ASCII digits; anything else has no value. -/
def numeral? (cs : List Char) : Option Nat :=
  if cs ≠ [] ∧ cs.all Char.isDigit then some (ofDigits cs) else none

/-- The text without one leading plus sign. -/
def dropPlus : List Char → List Char
  | '+' :: cs => cs
  | cs => cs

/-- A **word** is a numeral, with or without a plus sign in front, whose value fits in 64 bits. -/
def word? (cs : List Char) : Option Nat :=
  (numeral? (dropPlus cs)).filter (· < wordLimit)

/-! ### When reading succeeds -/

theorem numeral?_eq_some_iff {cs : List Char} {n : Nat} :
    numeral? cs = some n ↔ cs ≠ [] ∧ (∀ c ∈ cs, c.isDigit = true) ∧ ofDigits cs = n := by
  simp only [numeral?, List.all_eq_true]
  split
  · rename_i h
    exact ⟨fun e => ⟨h.1, h.2, Option.some.inj e⟩, fun e => congrArg some e.2.2⟩
  · rename_i h
    exact ⟨fun e => (nomatch e), fun e => absurd ⟨e.1, e.2.1⟩ h⟩

theorem word?_eq_some_iff {cs : List Char} {n : Nat} :
    word? cs = some n ↔ numeral? (dropPlus cs) = some n ∧ n < wordLimit := by
  simp [word?, Option.filter_eq_some_iff]

end CaptureReport.Text
