import CaptureReport.Device

/-!
# Selections

A **selection** says which channels take part: all, none, or those whose index is listed. Applying
it goes through the device's channels in order and switches each, by its index, to what the
selection says; the first refusal ends it, and what has been switched by then stays.
-/

namespace CaptureReport

/-- Which channels take part. -/
inductive Selection
  /-- Every channel, or none. -/
  | all (state : Bool)
  /-- The channels with one of these indices. -/
  | only (indices : List Nat)
  deriving DecidableEq, Repr

/-- Whether a selection includes an index. -/
def Selection.includes : Selection → Nat → Bool
  | all state, _ => state
  | only indices, index => indices.contains index

namespace Device

/-- Switches the channels with these indices, one after another, to what the selection says. -/
def selectEach (selection : Selection) : List Nat → Device → Change
  | [], d => .quiet d
  | index :: rest, d =>
    (d.enable index (selection.includes index)).andThen (selectEach selection rest)

/-- Applies a selection to every channel, in device order. -/
def select (d : Device) (selection : Selection) : Change :=
  selectEach selection (d.channels.map Channel.index) d

end Device

end CaptureReport
