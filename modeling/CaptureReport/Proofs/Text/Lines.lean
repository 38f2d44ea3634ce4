import CaptureReport.Text.Blank
import CaptureReport.Text.Decimal
import CaptureReport.Text.HexPair
import Mathlib.Data.List.Basic

/-!
# Reading lines, words and bytes

How the text of a report is taken apart by one who reads it. A **line** goes up to a line feed,
which is not part of it, nor is a carriage return right before the line feed; the text behind the
last line feed is a line if there is any. The **words** of a line are what is left of it between
blanks. A byte is read from one or more hexadecimal digits of either case, with an optional plus
sign in front, as long as the value fits.

## Main results

* `lines_cons`: the first line of a text and the others.
* `words_cons`: the first word of a line and the others.
* `hexByte?_hexPair`: the two digits of a byte are read as the byte.
-/

namespace CaptureReport.Text

/-! ### Lines -/

/-- A line without the carriage return at its end. -/
def dropReturn (line : List Char) : List Char :=
  if line.getLast? = some '\r' then line.dropLast else line

/-- The lines of a text. -/
def lines (text : List Char) : List (List Char) :=
  let pieces := text.splitOnP (· = '\n')
  pieces.dropLast.map dropReturn ++ (pieces.getLast?.toList.filter (· ≠ []))

/-- A line that does not end with a carriage return comes out as it is. -/
theorem dropReturn_eq_self {line : List Char} (h : line.getLast? ≠ some '\r') :
    dropReturn line = line :=
  if_neg h

/-- The first line of a text and the others. -/
theorem lines_cons {line : List Char} (hline : '\n' ∉ line) (rest : List Char) :
    lines (line ++ '\n' :: rest) = dropReturn line :: lines rest := by
  have hnone : ∀ c ∈ line, decide (c = '\n') = false := by
    intro c hc
    exact decide_eq_false fun heq => hline (heq ▸ hc)
  have hne : rest.splitOnP (· = '\n') ≠ [] := List.splitOnP_ne_nil _ _
  simp only [lines, List.splitOnP_append_cons_of_forall_mem hnone '\n' (decide_eq_true rfl)]
  rw [List.dropLast_cons_of_ne_nil hne, List.map_cons, List.cons_append,
    List.getLast?_cons_of_ne_nil hne]

/-! ### Words -/

/-- The words of a line. -/
def words (line : List Char) : List (List Char) :=
  (line.splitOnP isBlank).filter (· ≠ [])

/-- The first word of a line and the others. -/
theorem words_cons {word : List Char} (hne : word ≠ []) (hword : ∀ c ∈ word, isBlank c = false)
    {blank : Char} (hblank : isBlank blank = true) (rest : List Char) :
    words (word ++ blank :: rest) = word :: words rest := by
  rw [words, List.splitOnP_append_cons_of_forall_mem hword blank hblank,
    List.filter_cons_of_pos (by exact decide_eq_true hne), words]

/-! ### Bytes -/

/-- The value of a hexadecimal digit of either case. -/
def hexDigit? (c : Char) : Option Nat :=
  hexValue? c.toLower

/-- The number that a row of hexadecimal digits denotes, most significant digit first. -/
def hexNumber? (cs : List Char) : Option Nat :=
  if cs = [] then none
  else (cs.mapM hexDigit?).map (·.foldl (fun n digit => 16 * n + digit) 0)

/-- The byte that a word denotes. -/
def hexByte? (word : List Char) : Option UInt8 :=
  ((hexNumber? (dropPlus word)).filter (· < 256)).map UInt8.ofNat

/-- No digit that is shown for a value below sixteen is a blank. -/
theorem isBlank_digitChar {n : Nat} (h : n < 16) : isBlank (Nat.digitChar n) = false := by
  have hall : ∀ m ∈ List.range 16, isBlank (Nat.digitChar m) = false := by decide
  exact hall n (List.mem_range.mpr h)

/-- A lowercase digit has the same value to a reader of either case. It is below sixteen, and the
digit is no plus sign. -/
theorem hexDigit?_of_hexValue? {c : Char} {n : Nat} (h : hexValue? c = some n) :
    hexDigit? c = some n ∧ n < 16 ∧ c ≠ '+' := by
  have hrange : 48 ≤ c.toNat ∧ c.toNat ≤ 57 ∧ n = c.toNat - 48 ∨
      97 ≤ c.toNat ∧ c.toNat ≤ 102 ∧ n = c.toNat - 97 + 10 := by
    rw [hexValue?] at h
    split at h
    · rename_i hdigit
      exact .inl ⟨hdigit.1, hdigit.2, (Option.some.inj h).symm⟩
    · split at h
      · rename_i hletter
        exact .inr ⟨hletter.1, hletter.2, (Option.some.inj h).symm⟩
      · cases h
  have hlower : c.toLower = c := by
    refine dif_neg ?_
    rintro ⟨hfrom, hto⟩
    have hfrom : 65 ≤ c.toNat := hfrom
    have hto : c.toNat ≤ 90 := hto
    omega
  refine ⟨by rw [hexDigit?, hlower, h], by omega, ?_⟩
  rintro rfl
  have hplus : '+'.toNat = 43 := rfl
  omega

/-- A pair is read as a byte if the two digits denote it. -/
theorem hexByte?_of_byteOfPair? {high low : Char} {b : UInt8} (h : byteOfPair? high low = some b) :
    hexByte? [high, low] = some b := by
  obtain ⟨m, hm, h⟩ := Option.bind_eq_some_iff.mp h
  obtain ⟨n, hn, h⟩ := Option.bind_eq_some_iff.mp h
  obtain rfl := Option.some.inj h
  obtain ⟨hhigh, hm16, hplus⟩ := hexDigit?_of_hexValue? hm
  obtain ⟨hlow, hn16, -⟩ := hexDigit?_of_hexValue? hn
  have hnumber : hexNumber? [high, low] = some (16 * m + n) := by
    simp [hexNumber?, hhigh, hlow]
  have hdrop : dropPlus [high, low] = [high, low] := by
    rw [dropPlus]
    rintro cs heq
    exact hplus (List.cons.inj heq).1
  have hbyte : 16 * m + n < 256 := by omega
  rw [hexByte?, hdrop, hnumber, Option.filter_some_pos (by exact decide_eq_true hbyte),
    Option.map_some]

/-- **The two digits of a byte are read as the byte.** -/
theorem hexByte?_hexPair (b : UInt8) : hexByte? (hexPair b) = some b :=
  hexByte?_of_byteOfPair? (byteOfPair?_hexPair b)

end CaptureReport.Text
