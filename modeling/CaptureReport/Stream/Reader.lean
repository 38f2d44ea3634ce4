import CaptureReport.Stream.Notice
import CaptureReport.Stream.Source

/-!
# Reading a capture into feeds

The **reader** cuts a capture into blocks of a fixed number of samples and hands them on as
**feeds**. If a trigger is to be reported at a sample, the block that holds the sample is split
there and the trigger goes in between; a trigger at the very end of the capture follows the last
block.

The reader works in rounds. A round fills one block; the block that comes out short is the last one,
as is one that does not come at all, and the end of the stream is fed behind it. A source that fails
ends the feeds with its message.

All blocks are filled in the same place, which the reader asks memory for before its first round. A
reader that does not get it feeds nothing at all.

## Main results

* `Reader.size_lt_of_next`: a round after which there is another one uses up bytes of the source,
  so that the rounds come to an end.
-/

namespace CaptureReport.Stream

/-- The most bytes that can be asked of memory at once. -/
def memoryLimit : Nat := Nat.pow 2 63 - 1

/-- How a capture is cut: bytes per sample, and samples per block. -/
structure Cutting where
  unitSize : Nat
  chunkSamples : Nat
  unitSize_pos : 0 < unitSize
  chunkSamples_pos : 0 < chunkSamples

/-- Bytes in a full block. -/
def Cutting.blockSize (c : Cutting) : Nat :=
  c.unitSize * c.chunkSamples

theorem Cutting.blockSize_pos (c : Cutting) : 0 < c.blockSize :=
  Nat.mul_pos c.unitSize_pos c.chunkSamples_pos

/-- What the reader hands on to the encoder. -/
inductive Feed
  | block (data : List UInt8)
  | trigger
  /-- The capture is over. -/
  | finish
  /-- The source failed. -/
  | failed (message : String)
  deriving DecidableEq, Repr

/-- The state of a reader between two rounds. -/
structure Reader where
  source : Source
  /-- Complete samples read so far. -/
  position : Nat := 0
  /-- The sample that a trigger is still to be reported at. -/
  trigger : Option Nat := none

/-- What a round yields: feeds, notices, and the reader for the next round if there is one. -/
structure Round where
  feeds : List Feed
  notices : List Notice := []
  next : Option Reader := none

namespace Reader

/-- The feeds of one block, split at the trigger if it lies in the block, and the trigger that is
still to come after them. -/
def cut (c : Cutting) (r : Reader) (data : List UInt8) : List Feed × Option Nat :=
  match r.trigger with
  | none => ([.block data], none)
  | some sample =>
    if r.position ≤ sample ∧ sample < r.position + data.length / c.unitSize then
      let (before, after) := data.splitAt ((sample - r.position) * c.unitSize)
      ((if before.isEmpty then [] else [.block before]) ++ [.trigger, .block after], none)
    else
      ([.block data], some sample)

/-- The last round, with no block left. -/
def finish (r : Reader) : Round :=
  match r.trigger with
  | none => { feeds := [.finish] }
  | some sample =>
    if sample = r.position then { feeds := [.trigger, .finish] }
    else { feeds := [.finish], notices := [.triggerPastEnd sample r.position] }

/-- What is told about a block whose last sample is incomplete. -/
def leftover (c : Cutting) (data : List UInt8) : List Notice :=
  if data.length % c.unitSize = 0 then [] else [.partialSample (data.length % c.unitSize)]

/-- One round. -/
def round (c : Cutting) (r : Reader) : Round :=
  match r.source.fill c.blockSize with
  | (.error message, _) => { feeds := [.failed message] }
  | (.ok [], source) => finish { r with source }
  | (.ok (byte :: rest), source) =>
    let data := byte :: rest
    let (feeds, trigger) := r.cut c data
    let after := { source, position := r.position + data.length / c.unitSize, trigger }
    if data.length < c.blockSize then
      let last := finish after
      { feeds := feeds ++ last.feeds, notices := leftover c data ++ last.notices }
    else
      { feeds, notices := leftover c data, next := some after }

theorem next_finish (r : Reader) : r.finish.next = none := by
  unfold finish
  split
  · rfl
  · split <;> rfl

/-- A round that is followed by another one has used up bytes of the source. -/
theorem size_lt_of_next {c : Cutting} {r r' : Reader} (h : (r.round c).next = some r') :
    r'.source.size < r.source.size := by
  unfold round at h
  split at h
  · simp at h
  · simp [next_finish] at h
  · rename_i byte rest source hfill
    have hsize := Source.size_fill hfill
    simp only [List.length_cons] at hsize
    simp only at h
    split at h
    · simp at h
    · simp only [Option.some.injEq] at h
      subst h
      simp only
      omega

/-- All feeds of a capture, and all notices, in order. -/
def run (c : Cutting) (r : Reader) : List Feed × List Notice :=
  match _hround : r.round c with
  | { feeds, notices, next := none } => (feeds, notices)
  | { feeds, notices, next := some next } =>
    let (laterFeeds, laterNotices) := run c next
    (feeds ++ laterFeeds, notices ++ laterNotices)
termination_by r.source.size
decreasing_by exact size_lt_of_next (congrArg Round.next _hround)

/-- The feeds and the notices of a reader that has asked for room for a block, if there is room. -/
def feed? (c : Cutting) (r : Reader) : Option (List Feed × List Notice) :=
  if c.blockSize ≤ memoryLimit then some (run c r) else none

theorem feed?_of_room {c : Cutting} (h : c.blockSize ≤ memoryLimit) (r : Reader) :
    feed? c r = some (run c r) :=
  if_pos h

theorem feed?_of_noRoom {c : Cutting} (h : memoryLimit < c.blockSize) (r : Reader) :
    feed? c r = none :=
  if_neg (Nat.not_le.mpr h)

end Reader

end CaptureReport.Stream
