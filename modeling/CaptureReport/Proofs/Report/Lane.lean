import CaptureReport.Proofs.Report.Layout

/-!
# What a lane holds

A lane **holds** a row of bits for a channel if its line shows the full bytes of the row and the low
bits of its accumulator denote the bits behind them. Nothing is said of the accumulator's other
bits: a line that is not a whole number of bytes wide leaves its last bits there, and they move out
of the byte before the next full one is shown.

## Main results

* `Lane.Holds.take`: taking in a sample extends the row by the sample's bit.
* `Lane.Holds.text_complete`: the end of the stream brings out every bit of the row.
-/

namespace CaptureReport.Report

/-! ### Rows of bytes -/

@[simp] theorem packBytes_zero (bits : List Bool) : packBytes 0 bits = [] := rfl

theorem packBytes_succ (count : Nat) (bits : List Bool) :
    packBytes (count + 1) bits
      = packBytes count bits ++ [packByte ((bits.drop (8 * count)).take 8)] := by
  rw [packBytes, List.range_succ, List.map_append, List.map_singleton, packBytes]

/-- Bits behind the full bytes do not change them. -/
theorem packBytes_append {count : Nat} {bits : List Bool} (h : 8 * count ≤ bits.length)
    (more : List Bool) : packBytes count (bits ++ more) = packBytes count bits := by
  rw [packBytes, packBytes]
  apply List.map_congr_left
  intro i hi
  have hi' : i < count := List.mem_range.mp hi
  rw [List.drop_append_of_le_length (by omega),
    List.take_append_of_le_length (by rw [List.length_drop]; omega)]

namespace Lane

/-- The bits of a row behind its full bytes. -/
def pending (bits : List Bool) : List Bool :=
  bits.drop (8 * (bits.length / 8))

/-- A lane **holds** a row of bits of a channel. -/
structure Holds (lane : Lane) (channel : Channel) (bits : List Bool) : Prop where
  index : lane.index = channel.index
  name : lane.name = channel.name
  bytes : lane.bytes.reverse = packBytes (bits.length / 8) bits
  accumulator : lane.accumulator.toNat % 2 ^ (pending bits).length = binary (pending bits)

@[simp] theorem length_pending (bits : List Bool) : (pending bits).length = bits.length % 8 := by
  rw [pending, List.length_drop]
  omega

/-- A bit behind a row is pending as well. -/
theorem pending_concat {bits : List Bool} (h : (bits.length + 1) % 8 ≠ 0) (bit : Bool) :
    pending (bits ++ [bit]) = pending bits ++ [bit] := by
  have hdiv : (bits.length + 1) / 8 = bits.length / 8 := by omega
  rw [pending, List.length_append, List.length_singleton, hdiv,
    List.drop_append_of_le_length (by omega), pending]

/-- Behind a row of full bytes nothing is pending. -/
theorem pending_eq_nil {bits : List Bool} (h : bits.length % 8 = 0) : pending bits = [] := by
  apply List.eq_nil_of_length_eq_zero
  rw [length_pending, h]

variable {lane : Lane} {channel : Channel} {bits : List Bool}

theorem holds_ofChannel (channel : Channel) : (ofChannel channel).Holds channel [] where
  index := rfl
  name := rfl
  bytes := rfl
  accumulator := rfl

/-- What the accumulator denotes with a bit moved in. -/
theorem Holds.mod_shift (h : lane.Holds channel bits) (bit : Bool) :
    (lane.shift bit).accumulator.toNat % 2 ^ (pending bits ++ [bit]).length
      = binary (pending bits ++ [bit]) :=
  Report.mod_shift (by rw [length_pending]; omega) h.accumulator bit

/-- A bit that fills no byte is kept in the accumulator. -/
theorem Holds.shift (h : lane.Holds channel bits) (hroom : (bits.length + 1) % 8 ≠ 0)
    (bit : Bool) : (lane.shift bit).Holds channel (bits ++ [bit]) where
  index := h.index
  name := h.name
  bytes := by
    have hdiv : (bits ++ [bit]).length / 8 = bits.length / 8 := by
      rw [List.length_append, List.length_singleton]
      omega
    rw [hdiv, packBytes_append (by omega)]
    exact h.bytes
  accumulator := by
    rw [pending_concat hroom]
    exact h.mod_shift bit

/-- A bit that fills a byte brings the byte into the line. -/
theorem Holds.push_shift (h : lane.Holds channel bits) (hfull : (bits.length + 1) % 8 = 0)
    (bit : Bool) : ((lane.shift bit).push 0).Holds channel (bits ++ [bit]) where
  index := h.index
  name := h.name
  bytes := by
    have hlen : (pending bits ++ [bit]).length = 8 := by
      rw [List.length_append, length_pending, List.length_singleton]
      omega
    have hdiv : (bits ++ [bit]).length / 8 = bits.length / 8 + 1 := by
      rw [List.length_append, List.length_singleton]
      omega
    have hlast : ((bits ++ [bit]).drop (8 * (bits.length / 8))).take 8 = pending bits ++ [bit] := by
      rw [List.drop_append_of_le_length (by omega), ← pending,
        List.take_of_length_le (Nat.le_of_eq hlen)]
    have hbyte :
        (lane.shift bit).accumulator <<< UInt8.ofNat 0 = packByte (pending bits ++ [bit]) := by
      rw [← eq_packByte_of_mod hlen (h.mod_shift bit)]
      simp
    rw [hdiv, packBytes_succ, packBytes_append (by omega), hlast, ← h.bytes, ← hbyte]
    exact List.reverse_cons
  accumulator := by
    rw [pending_eq_nil (by rw [List.length_append, List.length_singleton]; exact hfull)]
    rfl

/-- **Taking in a sample extends the row** by the bit that the sample holds for the channel. -/
theorem Holds.take (h : lane.Holds channel bits) (sample : Sample) :
    (lane.take sample ((bits.length + 1) % 8 = 0)).Holds channel
      (bits ++ [sample.bit channel.index]) := by
  rw [Lane.take, h.index]
  by_cases hfull : (bits.length + 1) % 8 = 0
  · simpa [hfull] using h.push_shift hfull (sample.bit channel.index)
  · simpa [hfull] using h.shift hfull (sample.bit channel.index)

/-- A lane that has been reset holds nothing, whatever is left in its accumulator. -/
theorem Holds.reset (h : lane.Holds channel bits) : lane.reset.Holds channel [] where
  index := h.index
  name := h.name
  bytes := rfl
  accumulator := Nat.mod_one _

/-- So does a lane that has been completed first. -/
theorem Holds.reset_complete (h : lane.Holds channel bits) (rest : Nat) :
    (lane.complete rest).reset.Holds channel [] where
  index := by
    rw [complete]
    split <;> exact h.index
  name := by
    rw [complete]
    split <;> exact h.name
  bytes := rfl
  accumulator := Nat.mod_one _

theorem Holds.text (h : lane.Holds channel bits) :
    lane.text = lineText channel.name (packBytes (bits.length / 8) bits) := by
  rw [Lane.text, h.name, h.bytes]

/-- **The end of the stream brings out every bit of the row**, the last byte filled up by clear
ones. -/
theorem Holds.text_complete (h : lane.Holds channel bits) :
    (lane.complete (bits.length % 8)).text
      = lineText channel.name (packBytes ((bits.length + 7) / 8) bits) := by
  by_cases hrest : bits.length % 8 = 0
  · have hdiv : (bits.length + 7) / 8 = bits.length / 8 := by omega
    rw [complete, if_pos hrest, hdiv, ← h.text]
    rfl
  · have hdiv : (bits.length + 7) / 8 = bits.length / 8 + 1 := by omega
    have hlen : (pending bits).length = bits.length % 8 := length_pending bits
    have hbyte :
        lane.accumulator <<< UInt8.ofNat (8 - bits.length % 8) = packByte (pending bits) := by
      rw [← hlen]
      exact shiftLeft_eq_packByte (by omega) (by omega) h.accumulator
    have hlast : (bits.drop (8 * (bits.length / 8))).take 8 = pending bits :=
      List.take_of_length_le (show (pending bits).length ≤ 8 by omega)
    rw [complete, if_neg hrest, hdiv, packBytes_succ, hlast, Lane.text, push, h.name, hbyte,
      List.reverse_cons, h.bytes]

end Lane

end CaptureReport.Report
