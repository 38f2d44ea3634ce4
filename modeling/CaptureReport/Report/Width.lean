import CaptureReport.Refusal
import CaptureReport.Text.Blank
import CaptureReport.Text.Decimal

/-!
# Line widths

The **width** of a report is the number of samples in a line. It is given as a text: a word of at
least one, with blanks around it if need be. Without a text, and for the empty text, lines are
`defaultWidth` samples wide.

## Main results

* `parseWidth_eq_ok_iff`: a text is a width exactly when its trimmed form is a positive word.
-/

namespace CaptureReport.Report

/-- The width of a line when none is asked for. -/
def defaultWidth : Nat := 192

/-- Reads a width; what is no positive word is refused with the text as it was given. -/
def parseWidth (text : String) : Except Refusal Nat :=
  match Text.word? (Text.trim text.toList) with
  | some (n + 1) => .ok (n + 1)
  | _ => .error (.badWidth text)

/-- The width that an optional text asks for. -/
def chosenWidth (text : Option String) : Except Refusal Nat :=
  match text with
  | none | some "" => .ok defaultWidth
  | some text => parseWidth text

/-- **A width is a positive word**, once the blanks around it are gone. -/
theorem parseWidth_eq_ok_iff {text : String} {n : Nat} :
    parseWidth text = .ok n ↔ Text.word? (Text.trim text.toList) = some n ∧ 0 < n := by
  unfold parseWidth
  split
  · rename_i m h
    simp only [h, Except.ok.injEq, Option.some.injEq]
    omega
  · rename_i h
    simp only [reduceCtorEq, false_iff, not_and, Nat.not_lt, Nat.le_zero]
    intro hw
    cases n with
    | zero => rfl
    | succ n => exact absurd hw (h n)

/-- A width that was accepted is at least one. -/
theorem parseWidth_pos {text : String} {n : Nat} (h : parseWidth text = .ok n) : 0 < n :=
  (parseWidth_eq_ok_iff.mp h).2

/-- A chosen width is at least one. -/
theorem chosenWidth_pos {text : Option String} {n : Nat} (h : chosenWidth text = .ok n) :
    0 < n := by
  unfold chosenWidth at h
  split at h
  · cases h; decide
  · cases h; decide
  · exact parseWidth_pos h

end CaptureReport.Report
