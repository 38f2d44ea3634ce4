/-!
# Totals and notices

What a run tells about itself besides its report: the totals it keeps, and notices for the log. A
**warning** concerns the capture; all other notices only tell how far the run has come.
-/

namespace CaptureReport.Stream

/-- Totals of one run. -/
structure Stats where
  /-- Blocks encoded. -/
  packets : Nat := 0
  /-- Complete samples in them. -/
  samples : Nat := 0
  triggers : Nat := 0
  /-- Bytes of the texts that have been written in full. -/
  bytesOut : Nat := 0
  deriving DecidableEq, Repr

/-- Something to be told in the log. -/
inductive Notice
  /-- The capture ends within a sample. -/
  | partialSample (bytes : Nat)
  /-- The capture ends before the sample that a trigger was to be reported at. -/
  | triggerPastEnd (sample position : Nat)
  /-- The run begins. -/
  | started (channels sampleSize : Nat) (format : String)
  /-- The report is complete. -/
  | encoded (stats : Stats)
  /-- The run is over. -/
  | done (samples : Nat)
  deriving DecidableEq, Repr

namespace Notice

/-- Whether a notice concerns the capture. -/
def isWarning : Notice → Bool
  | partialSample _ | triggerPastEnd _ _ => true
  | started _ _ _ | encoded _ | done _ => false

def text : Notice → String
  | partialSample bytes => s!"capture ends with a partial sample, dropping {bytes} bytes"
  | triggerPastEnd sample position =>
    s!"trigger at sample {sample} is past the end of the capture ({position} samples)"
  | started channels sampleSize format =>
    s!"{channels} channels, {sampleSize} bytes per sample, format {format}"
  | encoded stats =>
    s!"encoded {stats.samples} samples in {stats.packets} packets ({stats.triggers} triggers), " ++
      s!"{stats.bytesOut} bytes of text"
  | done samples => s!"done: {samples} samples"

end Notice

end CaptureReport.Stream
