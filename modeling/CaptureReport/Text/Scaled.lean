/-!
# Quantities with a unit prefix

A rate such as 1500000 Hz is shown with the largest decimal unit prefix that leaves a whole part
of at least one, as `1.5 MHz`. Nothing is rounded: the fraction has as many digits as it takes, and
no zero at its end.

The **scale** of a value is the power of one thousand it is divided by; there are seven scales, and
the last one holds every 64-bit value with a whole part below one thousand.

## Main results

* `scale_le`: the scale names one of the seven symbols.
* `quotient_lt`: below the last scale the whole part has at most three digits.
-/

namespace CaptureReport.Text

/-- The symbols of the scales, in ascending order; the first scale has none. -/
def scaleSymbols : List String :=
  ["", "k", "M", "G", "T", "P", "E"]

/-- The divisor of a scale: one thousand to its power. -/
def scaleDivisor (e : Nat) : Nat :=
  Nat.pow 1000 e

/-- The **scale** of a value: the least one whose divisor brings it below one thousand, capped at
the last symbol. -/
def scale (value : Nat) : Nat :=
  ((List.range 6).find? fun e => value / scaleDivisor e < 1000).getD 6

/-- A number with zeros in front up to a given count of digits. -/
def paddedDigits (width n : Nat) : List Char :=
  List.leftpad width '0' (Nat.toDigits 10 n)

/-- The digits of a fraction without the zeros at its end. -/
def dropTrailingZeros (cs : List Char) : List Char :=
  (cs.reverse.dropWhile (· = '0')).reverse

/-- The **fraction** shown for a remainder at a scale: a point and the digits that count, or nothing
if none does. -/
def fractionText (e remainder : Nat) : List Char :=
  match dropTrailingZeros (paddedDigits (3 * e) remainder) with
  | [] => []
  | digits => '.' :: digits

/-- A value in a unit, as whole part, fraction, blank, scale symbol and unit. -/
def scaledText (value : Nat) (unit : String) : String :=
  let e := scale value
  let whole := value / scaleDivisor e
  let fraction := if e = 0 then [] else fractionText e (value % scaleDivisor e)
  toString whole ++ String.ofList fraction ++ " " ++ scaleSymbols.getD e "" ++ unit

/-- A rate in samples per second. -/
def rateText (rate : Nat) : String :=
  scaledText rate "Hz"

theorem scale_le (value : Nat) : scale value ≤ 6 := by
  unfold scale
  cases h : (List.range 6).find? fun e => value / scaleDivisor e < 1000 with
  | none => exact Nat.le_refl 6
  | some e => exact Nat.le_of_lt (List.mem_range.mp (List.mem_of_find?_eq_some h))

/-- Below the last scale the whole part is under one thousand. -/
theorem quotient_lt {value : Nat} (h : scale value < 6) :
    value / scaleDivisor (scale value) < 1000 := by
  unfold scale at h ⊢
  cases hf : (List.range 6).find? fun e => value / scaleDivisor e < 1000 with
  | none => rw [hf] at h; exact absurd h (by decide)
  | some e => simpa using List.find?_some hf

end CaptureReport.Text
