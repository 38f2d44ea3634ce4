import Mathlib.Data.List.Basic
import Mathlib.Data.List.GetD
import Mathlib.Data.List.Induction
import Mathlib.Tactic.Ring

/-!
# Bytes from rows of bits

A row of bits, read from the most significant one down, denotes a number in base two. A row of at
most eight bits is **packed** into a byte from its top: the first bit becomes the most significant
one, and places that are left over at the bottom stay clear. `byteBits` unpacks a byte again.

The second half of the module says what the shifts of a byte do to the numbers its low bits denote,
so that nothing needs to be known of the bits above them.

## Main results

* `byteBits_packByte`: unpacking gives back the row, with clear bits behind it.
* `mod_shift`: moving a bit in extends the row that the low bits of a byte denote.
-/

namespace CaptureReport.Report

/-- The number that a row of bits denotes in base two, most significant bit first. -/
def binary (bits : List Bool) : Nat :=
  bits.foldl (fun n bit => 2 * n + bit.toNat) 0

/-- The byte that has a row of bits at its top, and clear bits below. -/
def packByte (bits : List Bool) : UInt8 :=
  UInt8.ofNat (binary (bits ++ List.replicate (8 - bits.length) false))

/-- The bits of a byte, from the most significant one down. -/
def byteBits (byte : UInt8) : List Bool :=
  (List.range 8).map fun i => byte.toNat.testBit (7 - i)

/-! ### Numbers in base two -/

@[simp] theorem binary_nil : binary [] = 0 := rfl

theorem binary_concat (bits : List Bool) (bit : Bool) :
    binary (bits ++ [bit]) = 2 * binary bits + bit.toNat := by
  rw [binary, List.foldl_append]
  rfl

/-- Clear bits behind a row double its number, each of them once. -/
theorem binary_append_replicate_false (bits : List Bool) (n : Nat) :
    binary (bits ++ List.replicate n false) = binary bits * 2 ^ n := by
  induction n with
  | zero => simp
  | succ n ih =>
    rw [List.replicate_succ', ← List.append_assoc, binary_concat, ih, Nat.pow_succ,
      Bool.toNat_false]
    ring

theorem binary_lt (bits : List Bool) : binary bits < 2 ^ bits.length := by
  induction bits using List.reverseRecOn with
  | nil => exact Nat.one_pos
  | append_singleton bits bit ih =>
    have hbit : bit.toNat ≤ 1 := bit.toNat_le
    rw [binary_concat, List.length_append, List.length_singleton, Nat.pow_succ]
    omega

/-- The number's bits, from the least significant one up, are the row from its end back. -/
theorem testBit_binary (bits : List Bool) (i : Nat) :
    (binary bits).testBit i = bits.reverse.getD i false := by
  induction bits using List.reverseRecOn generalizing i with
  | nil => simp
  | append_singleton bits bit ih =>
    rw [binary_concat, List.reverse_append, List.reverse_singleton, List.singleton_append]
    cases i with
    | zero => cases bit <;> simp [Nat.testBit_zero]
    | succ i =>
      have hhalf : (2 * binary bits + bit.toNat) / 2 = binary bits := by
        have hbit : bit.toNat ≤ 1 := bit.toNat_le
        omega
      rw [Nat.testBit_succ, hhalf, ih, List.getD_cons_succ]

/-! ### Packing -/

theorem toNat_packByte {bits : List Bool} (h : bits.length ≤ 8) :
    (packByte bits).toNat = binary bits * 2 ^ (8 - bits.length) := by
  have hlt : binary bits * 2 ^ (8 - bits.length) < 2 ^ 8 := by
    calc binary bits * 2 ^ (8 - bits.length)
        < 2 ^ bits.length * 2 ^ (8 - bits.length) :=
          Nat.mul_lt_mul_of_pos_right (binary_lt bits) (Nat.two_pow_pos _)
      _ = 2 ^ 8 := by rw [← Nat.pow_add, Nat.add_sub_cancel' h]
  rw [packByte, binary_append_replicate_false]
  exact UInt8.toNat_ofNat_of_lt' hlt

/-- **Unpacking gives back the row** that was packed, with clear bits behind it. -/
theorem byteBits_packByte {bits : List Bool} (h : bits.length ≤ 8) :
    byteBits (packByte bits) = bits ++ List.replicate (8 - bits.length) false := by
  set row := bits ++ List.replicate (8 - bits.length) false with hrow
  have hlen : row.length = 8 := by
    rw [hrow, List.length_append, List.length_replicate]
    omega
  have hpacked : (packByte bits).toNat = binary row := by
    rw [toNat_packByte h, hrow, binary_append_replicate_false]
  apply List.ext_getElem
  · rw [byteBits, List.length_map, List.length_range, hlen]
  · intro i hi hi'
    have hrev : 7 - i < row.reverse.length := by rw [List.length_reverse]; omega
    have hback : row.length - 1 - (7 - i) = i := by omega
    simp only [byteBits, List.getElem_map, List.getElem_range, hpacked, testBit_binary,
      List.getD_eq_getElem _ _ hrev, List.getElem_reverse, hback]

/-! ### Shifting -/

/-- Moving a bit in doubles the byte, adds the bit, and drops what no longer fits. -/
theorem toNat_shift (byte : UInt8) (bit : Bool) :
    ((byte <<< 1) ||| bit.toUInt8).toNat = (2 * byte.toNat + bit.toNat) % 256 := by
  have hbyte : byte.toNat < 256 := byte.toNat_lt
  have heven : (byte <<< 1).toNat = (byte.toNat % 128) <<< 1 := by
    rw [UInt8.toNat_shiftLeft, Nat.shiftLeft_eq, Nat.shiftLeft_eq]
    simp
    omega
  have hbit : bit.toUInt8.toNat = bit.toNat := by cases bit <;> rfl
  have hle : bit.toNat < 2 ^ 1 := by cases bit <;> decide
  rw [UInt8.toNat_or, heven, hbit, ← Nat.shiftLeft_add_eq_or_of_lt hle, Nat.shiftLeft_eq]
  omega

/-- **Moving a bit in extends the row** that the low bits of a byte denote, whatever lies above. -/
theorem mod_shift {byte : UInt8} {bits : List Bool} (hlen : bits.length < 8)
    (h : byte.toNat % 2 ^ bits.length = binary bits) (bit : Bool) :
    ((byte <<< 1) ||| bit.toUInt8).toNat % 2 ^ (bits ++ [bit]).length = binary (bits ++ [bit]) := by
  have hdvd : 2 ^ (bits ++ [bit]).length ∣ 256 := by
    rw [List.length_append, List.length_singleton]
    exact Nat.pow_dvd_pow 2 (show bits.length + 1 ≤ 8 by omega)
  have hbit : bit.toNat ≤ 1 := bit.toNat_le
  have hdouble : 2 * byte.toNat % 2 ^ (bits.length + 1) = 2 * binary bits := by
    rw [Nat.pow_succ', Nat.mul_mod_mul_left, h]
  have hlt := binary_lt (bits ++ [bit])
  rw [binary_concat, List.length_append, List.length_singleton] at hlt
  rw [toNat_shift, Nat.mod_mod_of_dvd _ hdvd, List.length_append, List.length_singleton,
    Nat.add_mod, hdouble, binary_concat]
  rw [Nat.mod_eq_of_lt (b := 2 ^ (bits.length + 1)) (a := bit.toNat)]
  · exact Nat.mod_eq_of_lt hlt
  · exact Nat.lt_of_le_of_lt hbit (Nat.one_lt_two_pow (Nat.succ_ne_zero _))

/-- A row of eight bits in a byte is the whole byte. -/
theorem eq_packByte_of_mod {byte : UInt8} {bits : List Bool} (hlen : bits.length = 8)
    (h : byte.toNat % 2 ^ bits.length = binary bits) : byte = packByte bits := by
  have hbyte : byte.toNat < 2 ^ bits.length := hlen ▸ byte.toNat_lt
  apply UInt8.toNat_inj.mp
  rw [toNat_packByte (Nat.le_of_eq hlen), ← h, Nat.mod_eq_of_lt hbyte, hlen, Nat.sub_self,
    Nat.pow_zero, Nat.mul_one]

/-- Moving the low bits of a byte to its top packs the row they denote. -/
theorem shiftLeft_eq_packByte {byte : UInt8} {bits : List Bool} (hpos : 0 < bits.length)
    (hlen : bits.length < 8) (h : byte.toNat % 2 ^ bits.length = binary bits) :
    byte <<< UInt8.ofNat (8 - bits.length) = packByte bits := by
  have hup : (UInt8.ofNat (8 - bits.length)).toNat % 8 = 8 - bits.length := by
    rw [UInt8.toNat_ofNat_of_lt' (show 8 - bits.length < 2 ^ 8 by omega)]
    omega
  have hall : 2 ^ 8 = 2 ^ bits.length * 2 ^ (8 - bits.length) := by
    rw [← Nat.pow_add, Nat.add_sub_cancel' (Nat.le_of_lt hlen)]
  apply UInt8.toNat_inj.mp
  rw [toNat_packByte (Nat.le_of_lt hlen), UInt8.toNat_shiftLeft, hup, Nat.shiftLeft_eq, hall,
    Nat.mul_mod_mul_right, h]

end CaptureReport.Report
