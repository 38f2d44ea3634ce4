import CaptureReport.Text.Quoted

/-!
# Refusals

A request to a device, an encoder or a session is either carried out or refused. A **refusal** is
a cause, not a text: the wording is in `Refusal.detail`, and the part of the program the cause lies
in, its **kind**, stands in front of the wording in `Refusal.message`.
-/

namespace CaptureReport

/-- Where the cause of a refusal lies: in what the caller passed, in an option of a format, or in
what a driver is able to do. -/
inductive RefusalKind
  | argument
  | configuration
  | notApplicable
  deriving DecidableEq, Repr

/-- The words that announce a kind. -/
def RefusalKind.label : RefusalKind → String
  | .argument => "invalid argument"
  | .configuration => "invalid configuration"
  | .notApplicable => "not applicable"

/-- The message of a refusal of this kind with the given detail. -/
def RefusalKind.describe (kind : RefusalKind) (detail : String) : String :=
  kind.label ++ ": " ++ detail

/-- Why a request was refused. -/
inductive Refusal
  /-- No channel of the device has this index. -/
  | unknownChannel (index : Nat)
  /-- A block of samples that are zero bytes wide. -/
  | emptySample
  /-- A session was asked for without a device. -/
  | noDevice
  /-- A packet was sent to a session that has been closed. -/
  | closed
  /-- The format has no option of this name. -/
  | unknownOption (key format : String)
  /-- The text does not denote a line width. -/
  | badWidth (text : String)
  /-- A driver cannot apply a setting. -/
  | unsupported (detail : String)
  deriving DecidableEq, Repr

namespace Refusal

def kind : Refusal → RefusalKind
  | unknownChannel _ | emptySample | noDevice | closed => .argument
  | unknownOption _ _ | badWidth _ => .configuration
  | unsupported _ => .notApplicable

/-- The wording of a cause. -/
def detail : Refusal → String
  | unknownChannel index => s!"no channel with index {index}"
  | emptySample => "logic packet with zero unitsize"
  | noDevice => "output needs a device"
  | closed => "output has been cleaned up"
  | unknownOption key format =>
    "unknown option " ++ Text.quote key ++ " for output format " ++ format
  | badWidth text => "samples per line must be a positive integer, got " ++ Text.quote text
  | unsupported detail => detail

/-- The whole message: the kind, then the wording. -/
def message (r : Refusal) : String :=
  r.kind.describe r.detail

end Refusal

end CaptureReport
