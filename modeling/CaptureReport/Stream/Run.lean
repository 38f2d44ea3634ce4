import CaptureReport.Settings
import CaptureReport.Stream.Consumer

/-!
# Running a capture through

A **run** reads a capture from a source, encodes it, and writes the report to a sink. What can be
told from the settings alone is checked first, in a fixed order and before anything is read or
written: the format, the options of the session, the width of a sample, and that the size of a block
fits in a word. Then the reader takes the source over. A block that passes and still has no room in
memory ends the run as well, but only once the sink has been flushed of the nothing it received.

The reader and the consumer work at the same time and pass the feeds through a queue. The feeds
depend on the source alone, and the consumer takes them in order, so neither the depth of the queue
nor the pace of the two can be seen in what comes out, and a run is put down as one after the other.
A `Relay` is the same with the two beside each other.
-/

namespace CaptureReport.Stream

/-- What a run works with, once the settings have been checked. -/
structure Plan where
  session : Session
  cutting : Cutting

/-- The options of the session that the settings ask for. -/
def sessionOptions (output : OutputSettings) : Session.Options :=
  match output.width with
  | none => []
  | some width => [("width", toString width)]

/-- How the capture is to be cut, with at least one sample to a block. -/
def planCutting (settings : Settings) : Except Failure Cutting :=
  if hsize : settings.input.sampleSize = 0 then .error .emptySample
  else
    let samples := max settings.stream.chunkSamples 1
    if Text.wordLimit ≤ settings.input.sampleSize * samples then
      .error (.packetTooLarge samples settings.input.sampleSize)
    else
      .ok {
        unitSize := settings.input.sampleSize
        chunkSamples := samples
        unitSize_pos := Nat.pos_of_ne_zero hsize
        chunkSamples_pos := Nat.le_max_right .. }

/-- Checks the settings. -/
def plan (settings : Settings) (device : Device) : Except Failure Plan :=
  match Format.find? settings.output.format with
  | none => .error (.unknownFormat settings.output.format)
  | some format =>
    match Session.start format (sessionOptions settings.output) (some device) with
    | .error cause => .error (.setUp cause)
    | .ok session =>
      match planCutting settings with
      | .error failure => .error failure
      | .ok cutting => .ok { session, cutting }

/-- What became of a run. -/
structure Run where
  result : Except Failure Stats
  /-- The notices of the run, in order. -/
  notices : List Notice := []
  /-- The sink afterwards. -/
  sink : Sink
  /-- The source, unless a reader has taken it over. -/
  source : Option Source := none

/-- Carries out a plan. -/
def Plan.run (p : Plan) (trigger : Option Nat) (source : Source) (sink : Sink) : Run :=
  let consumer : Consumer := { session := p.session, sink }
  match Reader.feed? p.cutting { source, trigger } with
  | none =>
    match consumer.drain p.cutting.unitSize [] with
    | (.error failure, consumer) => { result := .error failure, sink := consumer.sink }
    | (.ok (), consumer) => { result := .error .noRoom, sink := consumer.sink }
  | some (feeds, notices) =>
    match consumer.drain p.cutting.unitSize feeds with
    | (.error failure, consumer) => { result := .error failure, notices, sink := consumer.sink }
    | (.ok (), consumer) =>
      { result := .ok consumer.stats
        notices := notices ++ [.encoded consumer.stats]
        sink := consumer.sink }

/-- Runs a capture through. -/
def run (settings : Settings) (device : Device) (source : Source) (sink : Sink) : Run :=
  match plan settings device with
  | .error failure => { result := .error failure, sink, source := some source }
  | .ok p => p.run settings.input.triggerAt source sink

end CaptureReport.Stream
