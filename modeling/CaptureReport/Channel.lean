/-!
# Channels

A **channel** is one probe of a device. Its index is the position of its bit within a packed
sample, whatever its position in the device's list; nothing keeps two channels from having the same
index.
-/

namespace CaptureReport

/-- What a channel measures. Only logic channels appear in a report. -/
inductive ChannelKind
  | logic
  | analog
  deriving DecidableEq, Repr

/-- One probe of a device. -/
structure Channel where
  /-- The position of the channel's bit within a packed sample. -/
  index : Nat
  kind : ChannelKind := .logic
  enabled : Bool := true
  name : String
  /-- The condition on which the device triggers, in the driver's own notation. -/
  trigger : Option String := none
  deriving DecidableEq, Repr

/-- The name of a channel that has been given none. -/
def Channel.defaultName (index : Nat) : String :=
  s!"D{index}"

/-- A channel is **selected** for a report if it is an enabled logic channel. -/
def Channel.isSelected (c : Channel) : Bool :=
  c.kind = .logic && c.enabled

end CaptureReport
