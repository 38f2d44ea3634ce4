/-!
# Blank characters and trimming

The **blank** characters are those with the Unicode property `White_Space`. Option values are
trimmed of them at both ends before they are read, so that a number pasted with a no-break space
around it is still a number.

## Main results

* `trim_eq_self`: a text with no blank at either end is left alone.
-/

namespace CaptureReport.Text

/-- The code points with the property `White_Space`, as closed ranges in ascending order. -/
def blankRanges : List (Nat × Nat) :=
  [(0x09, 0x0d), (0x20, 0x20), (0x85, 0x85), (0xa0, 0xa0), (0x1680, 0x1680), (0x2000, 0x200a),
   (0x2028, 0x2029), (0x202f, 0x202f), (0x205f, 0x205f), (0x3000, 0x3000)]

/-- A character is **blank** if it has the property `White_Space`. -/
def isBlank (c : Char) : Bool :=
  blankRanges.any fun r => r.1 ≤ c.toNat && c.toNat ≤ r.2

/-- The text without the blanks in front. -/
def trimStart (cs : List Char) : List Char :=
  cs.dropWhile isBlank

/-- The text without the blanks behind. -/
def trimEnd (cs : List Char) : List Char :=
  (cs.reverse.dropWhile isBlank).reverse

/-- The text without the blanks at either end. -/
def trim (cs : List Char) : List Char :=
  trimEnd (trimStart cs)

/-! ### What trimming leaves alone -/

theorem trimStart_cons_of_not_blank {c : Char} (h : isBlank c = false) (cs : List Char) :
    trimStart (c :: cs) = c :: cs := by
  simp [trimStart, h]

theorem trimEnd_concat_of_not_blank {c : Char} (h : isBlank c = false) (cs : List Char) :
    trimEnd (cs ++ [c]) = cs ++ [c] := by
  simp [trimEnd, h]

/-- A text that neither starts nor ends with a blank is its own trimmed form. -/
theorem trim_eq_self {cs : List Char} (hfirst : ∀ c ∈ cs.head?, isBlank c = false)
    (hlast : ∀ c ∈ cs.getLast?, isBlank c = false) : trim cs = cs := by
  rcases cs with _ | ⟨c, cs⟩
  · rfl
  · rw [trim, trimStart_cons_of_not_blank (hfirst c (by simp))]
    have hne : c :: cs ≠ [] := by simp
    have hlast' := hlast ((c :: cs).getLast hne) (by simp [List.getLast?_eq_some_getLast hne])
    rw [← List.dropLast_concat_getLast hne]
    exact trimEnd_concat_of_not_blank hlast' _

end CaptureReport.Text
