import CaptureReport.Refusal

/-!
# Failures of a run

Why a run ends without a complete report. A **failure** has a message and, below it, the messages of
what caused it, outermost first. Some failures are found before anything is read or written, the
others while the capture is under way.
-/

namespace CaptureReport.Stream

/-- Why a run failed. -/
inductive Failure
  /-- No format has the id that the settings ask for. -/
  | unknownFormat (id : String)
  /-- The session could not be started. -/
  | setUp (cause : Refusal)
  /-- Samples are zero bytes wide. -/
  | emptySample
  /-- The size of a block does not fit in a word. -/
  | packetTooLarge (samples sampleSize : Nat)
  /-- The session refused a packet. -/
  | refused (cause : Refusal)
  /-- The source failed. -/
  | read (message : String)
  /-- The sink did not take a text. -/
  | write (message : String)
  /-- The sink could not pass on what it had taken. -/
  | flush (message : String)
  /-- There is no room for a single block. -/
  | noRoom
  deriving DecidableEq, Repr

namespace Failure

def message : Failure → String
  | unknownFormat id => "unknown output format " ++ Text.quote id
  | setUp _ => "failed to set up output"
  | emptySample => "unitsize must be at least one byte per sample"
  | packetTooLarge samples sampleSize =>
    s!"packet of {samples} samples of {sampleSize} bytes is too large"
  | refused cause => cause.message
  | read _ => "failed to read capture"
  | write _ => "failed to write report"
  | flush _ => "failed to flush report"
  | noRoom => "reader thread panicked"

/-- The messages below the first one, outermost first. -/
def causes : Failure → List String
  | setUp cause => [cause.message]
  | read message | write message | flush message => [message]
  | unknownFormat _ | emptySample | packetTooLarge _ _ | refused _ | noRoom => []

end Failure

end CaptureReport.Stream
