import CaptureReport.Settings

/-!
# Command-line options

What a command line asks for, once it has been read: which files to use, and which settings to
replace. An option that is not given leaves the setting of the file, or the default, in place.
-/

namespace CaptureReport.Command

/-- The options of a command line. -/
structure Options where
  /-- The capture; standard input if there is none, or if it is a dash. -/
  input : Option String := none
  /-- The settings file. -/
  config : Option String := none
  /-- Where the report goes; standard output if nowhere else. -/
  output : Option String := none
  channels : Option Nat := none
  unitSize : Option Nat := none
  sampleRate : Option Nat := none
  /-- The channels to report. -/
  enable : Option (List Nat) := none
  width : Option Nat := none
  triggerAt : Option Nat := none
  format : Option String := none
  /-- To list the formats and do nothing else. -/
  listFormats : Bool := false
  /-- How often more notices were asked for. -/
  verbosity : Nat := 0
  deriving DecidableEq, Repr

namespace Options

/-- The settings with those that the options replace. -/
def apply (o : Options) (s : Settings) : Settings where
  input := { s.input with
    channels := o.channels.getD s.input.channels
    unitSize := o.unitSize.or s.input.unitSize
    sampleRate := o.sampleRate.or s.input.sampleRate
    enabled := (o.enable.map Selection.only).getD s.input.enabled
    triggerAt := o.triggerAt.or s.input.triggerAt }
  output := {
    format := o.format.getD s.output.format
    width := o.width.or s.output.width }
  stream := s.stream

/-- The capture's path, unless it is to be read from standard input. -/
def inputPath (o : Options) : Option String :=
  o.input.filter (· ≠ "-")

/-- Whether the capture comes from standard input. -/
def readsStdin (o : Options) : Bool :=
  !o.listFormats && o.inputPath.isNone

/-- The paths that are named. -/
def paths (o : Options) : List String :=
  o.config.toList ++ o.inputPath.toList ++ o.output.toList

end Options

end CaptureReport.Command
