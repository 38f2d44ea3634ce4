import CaptureReport.Channel
import CaptureReport.Refusal

/-!
# Drivers

A **driver** stands between a device and its hardware. It may know the sample rate, it may list the
options it understands, and it is asked before a channel's setting changes: a **request** shows it
the channel as it would be, and it accepts or refuses. A driver has no state of its own here, so its
answer depends on the request alone.
-/

namespace CaptureReport

/-- The channel properties that a driver has a say in. -/
inductive Setting
  | enabled
  | trigger
  deriving DecidableEq, Repr

/-- The device options a driver may list. -/
inductive DeviceOption
  | sampleRate
  deriving DecidableEq, Repr

/-- What a driver is asked: to apply one setting of a channel, shown with the new value in place. -/
structure Request where
  setting : Setting
  channel : Channel
  deriving DecidableEq, Repr

/-- The capabilities of a driver. The defaults are those of a driver that has none and objects to
nothing. -/
structure Driver where
  /-- Samples per second, if the driver knows. -/
  sampleRate : Option Nat := none
  /-- The options the driver lists, if it lists any. -/
  options : Option (List DeviceOption) := none
  /-- The driver's answer to a request. -/
  answer : Request → Except Refusal Unit := fun _ => .ok ()

namespace Driver

/-- The driver without capabilities. -/
def bare : Driver :=
  {}

/-- The driver of a capture that was recorded elsewhere: it knows the sample rate that was passed
on with the recording, and lists it as an option exactly then. -/
def recorded (sampleRate : Option Nat) : Driver where
  sampleRate := sampleRate
  options := sampleRate.map fun _ => [.sampleRate]

/-- A driver that serves the channels up to an index and refuses the given settings above it. -/
def limited (sampleRate : Option Nat) (options : Option (List DeviceOption)) (maxIndex : Nat)
    (refused : List Setting) : Driver where
  sampleRate := sampleRate
  options := options
  answer request :=
    if maxIndex < request.channel.index ∧ request.setting ∈ refused then
      .error (.unsupported s!"channel {request.channel.index}")
    else
      .ok ()

end Driver

end CaptureReport
