import CaptureReport.Device
import CaptureReport.Report.Lane
import CaptureReport.Report.Width
import CaptureReport.Text.Scaled

/-!
# The encoder

An **encoder** turns the packets of one stream into the text of a report. It takes the channel
selection from the device once, when it is made; what happens to the device later does not reach it.

Samples are counted towards a line across packets. As soon as a line has its width, the lines of
all lanes come out together, a **group**, followed by a line that points at the trigger if one fell
into the group. The end of the stream brings out a group that has been begun. A packet that brings
out nothing is answered with no text at all; the first block brings the header in any case.

The **mark** is the place of the latest trigger within the group that is being filled. A full group
with at least one lane uses it up; the group that ends the stream does not show it.
-/

namespace CaptureReport.Report

/-- The program's name and version, as every report begins. -/
def banner : String := "logic-hex 0.1.0"

/-- The **header** of a report: the banner and, if the sample rate is known, a line that counts the
selected channels among all of them. -/
def header (device : Device) : String :=
  banner ++ "\n" ++
    match device.sampleRate with
    | none => ""
    | some rate =>
      s!"Acquisition with {device.selected.length}/{device.channels.length} channels at " ++
        Text.rateText rate ++ "\n"

/-- The line that points at the trigger: a caret below the gap before sample `mark` of the group,
counting a column for each sample and one for every eight, and the mark itself. -/
def markLine (mark : Nat) : String :=
  "T:" ++ String.ofList (List.replicate (mark + mark / 8) ' ') ++ s!"^ {mark}\n"

/-- The state of an encoding. -/
structure Encoder where
  /-- Samples per line. -/
  width : Nat
  width_pos : 0 < width
  /-- The selected channels, in device order. -/
  lanes : List Lane
  /-- Samples in the group that is being filled. -/
  filled : Nat := 0
  /-- Where in that group the latest trigger fell. -/
  mark : Option Nat := none
  /-- The header, until it has come out. -/
  header : Option String
  /-- Samples taken in so far. -/
  samples : Nat := 0
  /-- Groups brought out so far. -/
  groups : Nat := 0

namespace Encoder

/-- An encoder for a device, for lines of the width that a text asks for. -/
def ofDevice (device : Device) (width : Option String) : Except Refusal Encoder :=
  match h : chosenWidth width with
  | .error refusal => .error refusal
  | .ok width => .ok {
      width := width
      width_pos := chosenWidth_pos h
      lanes := device.selected.map Lane.ofChannel
      header := some (Report.header device) }

/-- The lines of all lanes, each ended. -/
def laneLines (lanes : List Lane) : String :=
  String.join (lanes.map fun lane => lane.text ++ "\n")

/-- Brings out the group: the lines of the lanes, and the mark below the last one. -/
def flush (e : Encoder) : Encoder × String :=
  let pointer := if e.lanes.isEmpty then none else e.mark
  ({ e with
      lanes := e.lanes.map Lane.reset
      filled := 0
      mark := if e.lanes.isEmpty then e.mark else none
      groups := e.groups + 1 },
    laneLines e.lanes ++ (pointer.map markLine).getD "")

/-- Takes in one sample. The text is the group that it completes, if any. -/
def push (e : Encoder) (sample : Sample) : Encoder × String :=
  let filled := e.filled + 1
  let next := { e with
    lanes := e.lanes.map fun lane => lane.take sample (filled % 8 = 0)
    filled := filled
    samples := e.samples + 1 }
  if filled = e.width then next.flush else (next, "")

/-- Takes in samples one after another, adding what they bring out to a text. -/
def pushAll (e : Encoder) (samples : List Sample) (text : String) : Encoder × String :=
  samples.foldl (fun (e, text) sample =>
    let (next, more) := e.push sample
    (next, text ++ more)) (e, text)

/-- Brings out the group that has been begun, with the last bits of each lane moved up to where
they would stand in a full byte. The mark is neither shown nor used up. -/
def finish (e : Encoder) : Encoder × String :=
  if e.filled = 0 then (e, "")
  else
    let lanes := e.lanes.map fun lane => lane.complete (e.filled % 8)
    ({ e with lanes := lanes.map Lane.reset, filled := 0, groups := e.groups + 1 },
      laneLines lanes)

/-- No text at all in place of the empty one. -/
def someText (text : String) : Option String :=
  if text.isEmpty then none else some text

/-- Takes in one packet. A refusal leaves the encoder as it was. -/
def receive (e : Encoder) : Packet → Except Refusal (Option String × Encoder)
  | .trigger => .ok (none, { e with mark := some e.filled })
  | .block b =>
    match b.samples? with
    | none => .error .emptySample
    | some samples =>
      let (next, text) := { e with header := none }.pushAll samples (e.header.getD "")
      .ok (someText text, next)
  | .finish =>
    let (next, text) := e.finish
    .ok (someText text, next)

end Encoder

end CaptureReport.Report
