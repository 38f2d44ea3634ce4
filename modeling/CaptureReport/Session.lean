import CaptureReport.Format
import CaptureReport.Report.Encoder

/-!
# Sessions

A **session** binds a format to a device for one stream. Starting one checks the device, then the
options, then their values. Closing it drops the encoder with whatever has not come out yet; a
closed session refuses every packet, and closing it again does nothing.
-/

namespace CaptureReport

/-- A format bound to a device for one stream. -/
structure Session where
  format : Format
  /-- The encoder, until the session is closed. -/
  encoder : Option Report.Encoder

namespace Session

/-- Options of a format, as names with values; a name occurs once. -/
abbrev Options := List (String × String)

/-- Starts a session. The first option that the format does not take is refused by name. -/
def start (format : Format) (options : Options) (device : Option Device) :
    Except Refusal Session :=
  match device with
  | none => .error .noDevice
  | some device =>
    match options.find? fun option => !format.options.contains option.1 with
    | some (key, _) => .error (.unknownOption key format.id)
    | none =>
      match format with
      | .hex => do
        let encoder ← Report.Encoder.ofDevice device (options.lookup "width")
        return { format, encoder := some encoder }

/-- Whether packets are taken. -/
def isActive (s : Session) : Bool :=
  s.encoder.isSome

/-- Takes in one packet. A refusal leaves the session as it was. -/
def send (s : Session) (packet : Packet) : Except Refusal (Option String × Session) :=
  match s.encoder with
  | none => .error .closed
  | some encoder => do
    let (text, encoder) ← encoder.receive packet
    return (text, { s with encoder := some encoder })

/-- Drops the encoder. -/
def close (s : Session) : Session :=
  { s with encoder := none }

@[simp] theorem close_close (s : Session) : s.close.close = s.close := rfl

@[simp] theorem isActive_close (s : Session) : s.close.isActive = false := rfl

/-- A closed session refuses every packet. -/
theorem send_close (s : Session) (packet : Packet) : s.close.send packet = .error .closed := rfl

end Session

end CaptureReport
