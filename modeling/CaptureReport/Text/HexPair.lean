/-!
# Hexadecimal pairs

A byte is shown as a **hex pair**: two lowercase hexadecimal digits, the high half first.

## Main results

* `byteOfPair?_hexPair`: reading a pair gives back the byte it was made from.
-/

namespace CaptureReport.Text

/-- The digits of a byte, high half first. -/
def hexPair (b : UInt8) : List Char :=
  [Nat.digitChar (b.toNat / 16), Nat.digitChar (b.toNat % 16)]

/-- The value of a lowercase hexadecimal digit. -/
def hexValue? (c : Char) : Option Nat :=
  if '0' ≤ c ∧ c ≤ '9' then some (c.toNat - '0'.toNat)
  else if 'a' ≤ c ∧ c ≤ 'f' then some (c.toNat - 'a'.toNat + 10)
  else none

/-- The byte that two lowercase hexadecimal digits denote. -/
def byteOfPair? (high low : Char) : Option UInt8 := do
  let h ← hexValue? high
  let l ← hexValue? low
  return UInt8.ofNat (16 * h + l)

/-- The digit shown for a value below sixteen has that value. -/
theorem hexValue?_digitChar {n : Nat} (h : n < 16) : hexValue? (Nat.digitChar n) = some n := by
  have hall : ∀ m ∈ List.range 16, hexValue? (Nat.digitChar m) = some m := by decide
  exact hall n (List.mem_range.mpr h)

/-- **Round trip of a byte**: the two digits shown for it are read back as the byte. -/
theorem byteOfPair?_hexPair (b : UInt8) :
    byteOfPair? (Nat.digitChar (b.toNat / 16)) (Nat.digitChar (b.toNat % 16)) = some b := by
  have hb : b.toNat < 256 := b.toNat_lt
  have hsum : 16 * (b.toNat / 16) + b.toNat % 16 = b.toNat := Nat.div_add_mod b.toNat 16
  simp only [byteOfPair?, hexValue?_digitChar (show b.toNat / 16 < 16 by omega),
    hexValue?_digitChar (Nat.mod_lt b.toNat (by decide : 0 < 16)), Option.bind_eq_bind,
    Option.bind_some, Option.pure_def, hsum, UInt8.ofNat_toNat]

end CaptureReport.Text
