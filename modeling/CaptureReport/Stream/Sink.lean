/-!
# Sinks

A **sink** takes the bytes of a report. It may take only so many at a time, not always the same
number, and only so many in all; once it is full, it fails with a message if it has one, and
otherwise takes nothing any more, which for the one who writes comes to the same. A sink can be told
to pass on what it has, a flush, which may fail as well.

The sink keeps what it has taken, how much it took each time, and how much it had when it was
flushed.

## Main results

* `Sink.writeAll_nil`: writing nothing succeeds and leaves the sink alone.
-/

namespace CaptureReport.Stream

/-- A taker of bytes, and what it has taken. -/
structure Sink where
  /-- The most bytes it takes at a time. -/
  perWrite : Option Nat := none
  /-- The most bytes beyond the first that it takes in a write, by the number of writes before. -/
  pace : Nat → Option Nat := fun _ => none
  /-- The most bytes it takes in all. -/
  limit : Option Nat := none
  /-- What it fails with when it is full. -/
  full : Option String := none
  /-- What it fails with when it is flushed. -/
  flushFault : Option String := none
  /-- The bytes taken, in order. -/
  received : Array UInt8 := #[]
  /-- How many bytes each write took. -/
  writes : Array Nat := #[]
  /-- How many bytes it had taken at each flush. -/
  flushedAt : Array Nat := #[]

namespace Sink

/-- What those who write make of a sink that takes nothing. -/
def stalled : String := "failed to write whole buffer"

/-- How often the sink was flushed. -/
def flushes (s : Sink) : Nat :=
  s.flushedAt.size

/-- How many more bytes the sink takes, if there is an end to it. -/
def room (s : Sink) : Option Nat :=
  s.limit.map (· - s.received.size)

/-- The front part of some bytes that is no longer than a bound, if there is one. -/
def atMost (bound : Option Nat) (bytes : List UInt8) : List UInt8 :=
  match bound with
  | none => bytes
  | some n => bytes.take n

/-- As many of the bytes as the sink would take in one write. -/
def portion (s : Sink) (bytes : List UInt8) : List UInt8 :=
  atMost s.room (atMost s.perWrite (atMost ((s.pace s.writes.size).map (· + 1)) bytes))

/-- One write: the bytes that were taken, or the message of a sink that is full. -/
def write (s : Sink) (bytes : List UInt8) : Except String (List UInt8) × Sink :=
  let taken := s.portion bytes
  match s.full, taken with
  | some message, [] => (.error message, s)
  | _, _ =>
    (.ok taken, { s with received := s.received ++ taken, writes := s.writes.push taken.length })

/-- Writes until all bytes are taken. -/
def writeAll (s : Sink) (bytes : List UInt8) : Except String Unit × Sink :=
  if _hne : bytes = [] then (.ok (), s)
  else
    match s.write bytes with
    | (.error message, s) => (.error message, s)
    | (.ok [], s) => (.error stalled, s)
    | (.ok (byte :: taken), s) => writeAll s (bytes.drop (byte :: taken).length)
termination_by bytes.length
decreasing_by
  have hpos := List.length_pos_iff.mpr _hne
  simp only [List.length_drop, List.length_cons]
  omega

/-- Passes on what has been taken. -/
def flush (s : Sink) : Except String Unit × Sink :=
  let s := { s with flushedAt := s.flushedAt.push s.received.size }
  match s.flushFault with
  | some message => (.error message, s)
  | none => (.ok (), s)

@[simp] theorem atMost_some (n : Nat) (bytes : List UInt8) :
    atMost (some n) bytes = bytes.take n := rfl

@[simp] theorem writeAll_nil (s : Sink) : s.writeAll [] = (.ok (), s) := by
  rw [writeAll]
  simp

end Sink

end CaptureReport.Stream
