/-!
# Packets

A capture arrives as **packets**: blocks of packed samples, a mark where the acquisition triggered,
and the end of the stream. A **sample** is a fixed number of bytes, the unit size of its block, and
holds one bit of every channel: channel `i` has bit `i % 8` of byte `i / 8`.

Only the complete samples of a block count; bytes left over at its end belong to none.

## Main results

* `length_cutSamples`, `Block.length_samples`: a block holds as many samples as its length allows.
-/

namespace CaptureReport

/-- The bytes of one sample. -/
abbrev Sample := List UInt8

/-- The bit that a sample holds for a channel index; beyond the sample's last byte every bit is
clear. -/
def Sample.bit (sample : Sample) (index : Nat) : Bool :=
  match sample[index / 8]? with
  | some byte => byte.toNat.testBit (index % 8)
  | none => false

/-- The first `count` runs of `size` bytes. -/
def cutSamples (size : Nat) : (count : Nat) → List UInt8 → List Sample
  | 0, _ => []
  | count + 1, data => data.take size :: cutSamples size count (data.drop size)

/-- A block of packed samples. -/
structure Block where
  /-- Bytes per sample. -/
  unitSize : Nat
  data : List UInt8
  deriving DecidableEq, Repr

namespace Block

/-- How many complete samples a block holds; none if its samples are zero bytes wide. -/
def sampleCount (b : Block) : Nat :=
  b.data.length / b.unitSize

/-- The complete samples of a block, in order. -/
def samples (b : Block) : List Sample :=
  cutSamples b.unitSize b.sampleCount b.data

/-- The samples of a block, which has to have samples at least one byte wide. -/
def samples? (b : Block) : Option (List Sample) :=
  if b.unitSize = 0 then none else some b.samples

end Block

/-- A stream event, in the order of the acquisition. -/
inductive Packet
  /-- The acquisition triggered before the next sample. -/
  | trigger
  | block (b : Block)
  /-- The end of the stream. -/
  | finish
  deriving DecidableEq, Repr

/-! ### Cutting -/

@[simp] theorem length_cutSamples (size count : Nat) (data : List UInt8) :
    (cutSamples size count data).length = count := by
  induction count generalizing data with
  | zero => rfl
  | succ count ih => simp [cutSamples, ih]

@[simp] theorem Block.length_samples (b : Block) : b.samples.length = b.sampleCount :=
  length_cutSamples ..

/-- Runs cut from data that is long enough are all of the full size. -/
theorem length_of_mem_cutSamples {size count : Nat} {data : List UInt8} {sample : Sample}
    (hlen : count * size ≤ data.length) (h : sample ∈ cutSamples size count data) :
    sample.length = size := by
  induction count generalizing data with
  | zero => simp [cutSamples] at h
  | succ count ih =>
    rw [Nat.succ_mul] at hlen
    rcases List.mem_cons.mp h with rfl | hrest
    · simp only [List.length_take]
      omega
    · exact ih (by simp only [List.length_drop]; omega) hrest

end CaptureReport
