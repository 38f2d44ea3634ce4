import CaptureReport.Driver

/-!
# Devices

A **device** is a list of channels behind an optional driver. Channels are addressed by index; where
several have the same index, the first one is meant.

Every operation that changes a device gives a `Change`: the device afterwards, the result, and the
requests that the driver was asked in order. Switching a channel and setting its trigger condition
are transactions. The driver is asked only if the value changes; it is shown the channel with the
new value, and if it refuses, the old one is put back.

## Main results

* `Device.replace_back`: putting a channel back where it was restores the device.
* `Device.propose_device_of_error`: a refused proposal leaves the device as it was.
-/

namespace CaptureReport

/-- How far a device has come in being set up. -/
inductive DeviceStatus
  | notFound
  | found
  | inactive
  | active
  deriving DecidableEq, Repr

/-- A device: what it is, its channels in order, and its driver. -/
structure Device where
  index : Nat := 0
  status : DeviceStatus := .active
  vendor : Option String := none
  model : Option String := none
  version : Option String := none
  channels : List Channel := []
  driver : Option Driver := none

/-- What became of an operation on a device. -/
structure Change where
  /-- The device afterwards. -/
  device : Device
  result : Except Refusal Unit
  /-- What the driver was asked, in order. -/
  requests : List Request := []

namespace Change

/-- The change that succeeds without a driver being asked. -/
def quiet (device : Device) : Change where
  device := device
  result := .ok ()

/-- One change after another: the second takes place if the first succeeded. -/
def andThen (first : Change) (second : Device → Change) : Change :=
  match first.result with
  | .error _ => first
  | .ok () =>
    let later := second first.device
    { later with requests := first.requests ++ later.requests }

end Change

namespace Device

/-- Samples per second, if the driver knows. -/
def sampleRate (d : Device) : Option Nat :=
  d.driver.bind Driver.sampleRate

/-- Whether the driver lists an option. -/
def hasOption (d : Device) (option : DeviceOption) : Bool :=
  ((d.driver.bind Driver.options).getD []).contains option

/-- The channels that a report shows, in device order. -/
def selected (d : Device) : List Channel :=
  d.channels.filter Channel.isSelected

/-- The first channel with an index. -/
def channel? (d : Device) (index : Nat) : Option Channel :=
  d.channels.find? (·.index = index)

/-- The channels with another one in the place of the first that has its index. -/
def replaceFirst (channel : Channel) : List Channel → List Channel
  | [] => []
  | c :: rest => if c.index = channel.index then channel :: rest else c :: replaceFirst channel rest

/-- The device with another channel in the place of the first that has its index. -/
def replace (d : Device) (channel : Channel) : Device :=
  { d with channels := replaceFirst channel d.channels }

/-! ### Operations -/

/-- The device with a channel added at the end of the list. -/
def add (d : Device) (channel : Channel) : Device :=
  { d with channels := d.channels ++ [channel] }

/-- Puts a new channel in the place of an old one, and asks the driver about the setting in which
they differ. If it refuses, the old channel is put back. -/
def propose (d : Device) (old new : Channel) (setting : Setting) : Change :=
  let edited := d.replace new
  match d.driver with
  | none => .quiet edited
  | some driver =>
    let request := { setting, channel := new }
    match driver.answer request with
    | .ok () => { device := edited, result := .ok (), requests := [request] }
    | .error refusal =>
      { device := edited.replace old, result := .error refusal, requests := [request] }

/-- The refusal for want of a channel. -/
def noChannel (d : Device) (index : Nat) : Change :=
  { device := d, result := .error (.unknownChannel index) }

/-- Gives a channel another name. Names concern nobody but the reader of a report, so the driver is
not asked. -/
def rename (d : Device) (index : Nat) (name : String) : Change :=
  match d.channel? index with
  | none => d.noChannel index
  | some channel => .quiet (d.replace { channel with name })

/-- Switches a channel on or off. -/
def enable (d : Device) (index : Nat) (state : Bool) : Change :=
  match d.channel? index with
  | none => d.noChannel index
  | some channel =>
    if channel.enabled = state then .quiet d
    else d.propose channel { channel with enabled := state } .enabled

/-- Sets or clears the trigger condition of a channel. -/
def setTrigger (d : Device) (index : Nat) (trigger : Option String) : Change :=
  match d.channel? index with
  | none => d.noChannel index
  | some channel =>
    if channel.trigger = trigger then .quiet d
    else d.propose channel { channel with trigger } .trigger

/-! ### What a refusal leaves behind -/

section Back

variable {d : Device} {old new : Channel}

/-- The first channel with an index is found again under that index when it has been replaced, and
putting it back restores the list. -/
theorem replaceFirst_back {channels : List Channel} (hindex : new.index = old.index)
    (hfirst : channels.find? (·.index = old.index) = some old) :
    replaceFirst old (replaceFirst new channels) = channels := by
  induction channels with
  | nil => cases hfirst
  | cons c channels ih =>
    by_cases hc : c.index = old.index
    · rw [List.find?_cons_of_pos (by simpa using hc)] at hfirst
      obtain rfl := Option.some.inj hfirst
      rw [replaceFirst, if_pos hindex.symm, replaceFirst, if_pos hindex]
    · rw [List.find?_cons_of_neg (by simpa using hc)] at hfirst
      rw [replaceFirst, if_neg (hindex ▸ hc), replaceFirst, if_neg hc, ih hfirst]

/-- **Putting a channel back where it was restores the device.** -/
theorem replace_back (hindex : new.index = old.index) (hold : d.channel? old.index = some old) :
    (d.replace new).replace old = d := by
  rw [replace, replace, replaceFirst_back hindex hold]

/-- A refused proposal leaves the device as it was. -/
theorem propose_device_of_error {setting : Setting} {refusal : Refusal}
    (hindex : new.index = old.index) (hold : d.channel? old.index = some old)
    (h : (d.propose old new setting).result = .error refusal) :
    (d.propose old new setting).device = d := by
  rw [propose] at h ⊢
  cases hdriver : d.driver with
  | none => simp [hdriver, Change.quiet] at h
  | some driver =>
    cases hanswer : driver.answer { setting, channel := new } with
    | ok done => simp [hdriver, hanswer] at h
    | error refused =>
      simp only [hanswer]
      exact replace_back hindex hold

end Back

end Device

end CaptureReport
