import CaptureReport.Channel
import CaptureReport.Packet
import CaptureReport.Text.HexPair

/-!
# Lanes

A report shows each selected channel in a line of its own, and a **lane** is that line while it
grows. Eight samples make a byte, the earliest in the most significant bit, and every full byte is
shown as a **cell**: a hex pair and a blank. Bits that do not fill a byte yet are kept in the
accumulator, latest in bit 0; whatever lies above them there is left over from earlier bytes and
will have moved out by the time the byte is full.
-/

namespace CaptureReport.Report

/-- A channel's line in the making. -/
structure Lane where
  /-- The position of the channel's bit within a sample. -/
  index : Nat
  name : String
  /-- The full bytes of the line so far, from the latest back. -/
  bytes : List UInt8 := []
  /-- The byte being assembled. -/
  accumulator : UInt8 := 0
  deriving DecidableEq, Repr

/-- How a byte is shown in a line. -/
def cell (byte : UInt8) : String :=
  String.ofList (Text.hexPair byte ++ [' '])

/-- A line that shows bytes under a name. -/
def lineText (name : String) (bytes : List UInt8) : String :=
  name ++ ":" ++ String.join (bytes.map cell)

namespace Lane

/-- The empty lane of a channel. -/
def ofChannel (channel : Channel) : Lane where
  index := channel.index
  name := channel.name

/-- What the lane shows. -/
def text (lane : Lane) : String :=
  lineText lane.name lane.bytes.reverse

/-- Moves a bit into the accumulator. -/
def shift (lane : Lane) (bit : Bool) : Lane :=
  { lane with accumulator := (lane.accumulator <<< 1) ||| bit.toUInt8 }

/-- Shows the accumulator as a byte of the line, moved up by some bits first, and clears it. -/
def push (lane : Lane) (up : Nat) : Lane :=
  { lane with bytes := (lane.accumulator <<< UInt8.ofNat up) :: lane.bytes, accumulator := 0 }

/-- Takes in the lane's bit of a sample; `full` says that the sample completes a byte. -/
def take (lane : Lane) (sample : Sample) (full : Bool) : Lane :=
  let lane := lane.shift (sample.bit lane.index)
  if full then lane.push 0 else lane

/-- Starts the next line; the accumulator stays. -/
def reset (lane : Lane) : Lane :=
  { lane with bytes := [] }

/-- Shows the bits of an unfinished byte, `rest` of them, in the upper part of a last cell, so that
they stand in the same columns as in a full line, and clears the accumulator. -/
def complete (lane : Lane) (rest : Nat) : Lane :=
  if rest = 0 then { lane with accumulator := 0 } else lane.push (8 - rest)

end Lane

end CaptureReport.Report
