import CaptureReport.Session
import CaptureReport.Stream.Failure
import CaptureReport.Stream.Reader
import CaptureReport.Stream.Sink

/-!
# Encoding feeds

The **consumer** takes the feeds of a reader one at a time, sends each to the session as a packet,
and writes the text that comes back to the sink before it takes the next one. When the feeds have
ended it flushes the sink. The first failure stops it: nothing is written after it, and nothing is
flushed.
-/

namespace CaptureReport.Stream

/-- The state of a consumer between two feeds. -/
structure Consumer where
  session : Session
  sink : Sink
  stats : Stats := {}

namespace Consumer

/-- The bytes of a text. -/
def bytesOf (text : String) : List UInt8 :=
  text.toUTF8.data.toList

/-- Writes what a packet brought out. -/
def write (k : Consumer) : Option String → Except Failure Unit × Consumer
  | none => (.ok (), k)
  | some text =>
    match k.sink.writeAll (bytesOf text) with
    | (.error message, sink) => (.error (.write message), { k with sink })
    | (.ok (), sink) =>
      (.ok (), { k with
        sink
        stats := { k.stats with bytesOut := k.stats.bytesOut + text.utf8ByteSize } })

/-- Sends a packet to the session and writes what it brings out. -/
def send (k : Consumer) (packet : Packet) : Except Failure Unit × Consumer :=
  match k.session.send packet with
  | .error cause => (.error (.refused cause), k)
  | .ok (text, session) => { k with session }.write text

/-- Takes one feed. -/
def accept (unitSize : Nat) (k : Consumer) : Feed → Except Failure Unit × Consumer
  | .block data =>
    let b : Block := { unitSize, data }
    let stats := { k.stats with
      packets := k.stats.packets + 1
      samples := k.stats.samples + b.sampleCount }
    { k with stats }.send (.block b)
  | .trigger =>
    { k with stats := { k.stats with triggers := k.stats.triggers + 1 } }.send .trigger
  | .finish => k.send .finish
  | .failed message => (.error (.read message), k)

/-- Flushes the sink. -/
def flush (k : Consumer) : Except Failure Unit × Consumer :=
  match k.sink.flush with
  | (.error message, sink) => (.error (.flush message), { k with sink })
  | (.ok (), sink) => (.ok (), { k with sink })

/-- Takes all feeds, then flushes. -/
def drain (unitSize : Nat) : List Feed → Consumer → Except Failure Unit × Consumer
  | [], k => k.flush
  | feed :: rest, k =>
    match k.accept unitSize feed with
    | (.error failure, k) => (.error failure, k)
    | (.ok (), k) => drain unitSize rest k

end Consumer

end CaptureReport.Stream
