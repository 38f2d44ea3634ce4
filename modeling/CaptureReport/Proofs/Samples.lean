import CaptureReport.Packet
import Mathlib.Data.List.Basic

/-!
# Samples across block boundaries

A capture may be cut into blocks in many ways. Blocks that are cut **at sample boundaries**, so that
only the last one may end within a sample, hold the same samples together as the capture does in one
piece.

## Main results

* `samples_append`: whole samples in front of a block come out first.
* `samples_flatten`: where the boundaries fall does not matter to the samples.
-/

namespace CaptureReport

/-- Blocks are cut **at sample boundaries** if every one but the last is made up of whole
samples. -/
def AtSampleBoundaries (unitSize : Nat) (blocks : List (List UInt8)) : Prop :=
  ∀ data ∈ blocks.dropLast, unitSize ∣ data.length

instance (unitSize : Nat) (blocks : List (List UInt8)) :
    Decidable (AtSampleBoundaries unitSize blocks) :=
  inferInstanceAs (Decidable (∀ data ∈ blocks.dropLast, unitSize ∣ data.length))

/-- Runs cut from the front part alone, as long as they end with it, are followed by the runs cut
from the rest. -/
theorem cutSamples_append {size count : Nat} {front : List UInt8}
    (hfront : front.length = count * size) (more : Nat) (rest : List UInt8) :
    cutSamples size (count + more) (front ++ rest)
      = cutSamples size count front ++ cutSamples size more rest := by
  induction count generalizing front with
  | zero =>
    obtain rfl : front = [] := List.eq_nil_of_length_eq_zero (by omega)
    rw [Nat.zero_add, List.nil_append]
    rfl
  | succ count ih =>
    have hlen : front.length = count * size + size := by rw [hfront, Nat.succ_mul]
    have hdrop : (front.drop size).length = count * size := by rw [List.length_drop]; omega
    rw [Nat.succ_add, cutSamples, cutSamples, List.take_append_of_le_length (by omega),
      List.drop_append_of_le_length (by omega), ih hdrop, List.cons_append]

/-- A block that is too short for a sample has none. -/
theorem samples_of_length_lt {unitSize : Nat} {data : List UInt8} (h : data.length < unitSize) :
    (Block.mk unitSize data).samples = [] := by
  rw [Block.samples, Block.sampleCount, Nat.div_eq_of_lt h]
  rfl

/-- Whole samples in front of a block come out first. -/
theorem samples_append {unitSize : Nat} (hunit : 0 < unitSize) {front : List UInt8}
    (hfront : unitSize ∣ front.length) (rest : List UInt8) :
    (Block.mk unitSize (front ++ rest)).samples
      = (Block.mk unitSize front).samples ++ (Block.mk unitSize rest).samples := by
  obtain ⟨count, hcount⟩ := hfront
  have hdiv : (front ++ rest).length / unitSize = count + rest.length / unitSize := by
    rw [List.length_append, hcount, Nat.mul_add_div hunit]
  have hown : front.length / unitSize = count := by rw [hcount, Nat.mul_div_cancel_left _ hunit]
  have hmul : front.length = count * unitSize := by rw [hcount, Nat.mul_comm]
  simp only [Block.samples, Block.sampleCount, hdiv, hown]
  exact cutSamples_append hmul _ _

/-- **Blocks cut at sample boundaries hold the samples of the capture**, whatever the
boundaries. -/
theorem samples_flatten {unitSize : Nat} (hunit : 0 < unitSize) {blocks : List (List UInt8)}
    (hcut : AtSampleBoundaries unitSize blocks) :
    (Block.mk unitSize blocks.flatten).samples
      = blocks.flatMap fun data => (Block.mk unitSize data).samples := by
  induction blocks with
  | nil => exact samples_of_length_lt hunit
  | cons data blocks ih =>
    cases blocks with
    | nil => simp
    | cons next blocks =>
      have hdata : unitSize ∣ data.length := hcut data (by simp)
      have hrest : AtSampleBoundaries unitSize (next :: blocks) :=
        fun d hd => hcut d (by rw [List.dropLast_cons_cons]; exact List.mem_cons_of_mem _ hd)
      rw [List.flatten_cons, samples_append hunit hdata, ih hrest]
      simp only [List.flatMap_cons]

end CaptureReport
