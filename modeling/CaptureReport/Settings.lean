import CaptureReport.Selection

/-!
# Settings

What a run is told about the capture it reads, the report it writes, and how the capture is cut on
its way. Every setting has a default; a number of channels implies how wide a sample is, and a
channel without a name is called by its index.
-/

namespace CaptureReport

/-- What the capture looks like. -/
structure InputSettings where
  /-- Logic channels packed into each sample. -/
  channels : Nat := 8
  /-- Bytes per sample, unless implied. -/
  unitSize : Option Nat := none
  /-- Samples per second, if known. -/
  sampleRate : Option Nat := none
  enabled : Selection := .all true
  /-- Names by channel index. -/
  names : List String := []
  /-- The sample before which a trigger is reported. -/
  triggerAt : Option Nat := none
  deriving DecidableEq, Repr

/-- What the report looks like. -/
structure OutputSettings where
  /-- The id of the format. -/
  format : String := "hex"
  /-- Samples per line, unless the format's own choice is good. -/
  width : Option Nat := none
  deriving DecidableEq, Repr

/-- How the capture is handed on. -/
structure StreamSettings where
  /-- Samples per packet. -/
  chunkSamples : Nat := 4096
  /-- Packets that may wait for the encoder. -/
  queueDepth : Nat := 16
  deriving DecidableEq, Repr

/-- All settings of a run. -/
structure Settings where
  input : InputSettings := {}
  output : OutputSettings := {}
  stream : StreamSettings := {}
  deriving DecidableEq, Repr

namespace InputSettings

/-- Bytes per sample that a number of channels implies: the fewest that hold a bit for each, and at
least one. -/
def impliedSize (channels : Nat) : Nat :=
  max ((channels + 7) / 8) 1

/-- Bytes per sample. -/
def sampleSize (s : InputSettings) : Nat :=
  s.unitSize.getD (impliedSize s.channels)

/-- The name of a channel. -/
def channelName (s : InputSettings) (index : Nat) : String :=
  s.names[index]?.getD (Channel.defaultName index)

/-- The device that stands in for the recorded capture: as many enabled logic channels as there are
in a sample, in ascending order. -/
def device (s : InputSettings) : Device where
  model := some "capture"
  channels := (List.range s.channels).map fun index => { index, name := s.channelName index }
  driver := some (.recorded s.sampleRate)

end InputSettings

end CaptureReport
