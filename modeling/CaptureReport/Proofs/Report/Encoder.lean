import CaptureReport.Proofs.Report.Lane
import Mathlib.Data.List.Forall2

/-!
# What an encoder holds

An encoder **holds** the samples of the group that is being filled if it counts them, has room for
at least one more, and each of its lanes holds the bits that they have for the lane's channel. Where
earlier groups left bits in the accumulators does not come into it, so the invariant survives the
end of a group of any width.

## Main results

* `Encoder.Holds.push_of_room`, `Encoder.Holds.push_of_full`: a sample joins the group, and if it
  completes the group, the group's text comes out and nothing of it is held any longer.
* `Encoder.Holds.finish`: the end of the stream brings out what is held.
-/

namespace CaptureReport.Report

/-! ### Lanes side by side -/

/-- Lanes **hold** samples for channels, one lane for each channel. -/
def LanesHold (channels : List Channel) (lanes : List Lane) (samples : List Sample) : Prop :=
  List.Forall₂ (fun channel lane => lane.Holds channel (channelBits channel samples)) channels lanes

/-- Two maps over lists that are related entry by entry agree if they agree on related entries. -/
theorem map_eq_map_of_forall₂ {α β γ : Type} {R : α → β → Prop} {f : α → γ} {g : β → γ}
    {as : List α} {bs : List β} (h : List.Forall₂ R as bs) (hfg : ∀ a b, R a b → g b = f a) :
    bs.map g = as.map f := by
  induction h with
  | nil => rfl
  | cons hab _ ih => rw [List.map_cons, List.map_cons, hfg _ _ hab, ih]

namespace LanesHold

variable {channels : List Channel} {lanes : List Lane} {samples : List Sample}

theorem ofChannels (channels : List Channel) :
    LanesHold channels (channels.map Lane.ofChannel) [] := by
  rw [LanesHold, List.forall₂_map_right_iff, List.forall₂_same]
  exact fun channel _ => Lane.holds_ofChannel channel

theorem isEmpty_eq (h : LanesHold channels lanes samples) : lanes.isEmpty = channels.isEmpty := by
  cases h with
  | nil => rfl
  | cons _ _ => rfl

theorem take (h : LanesHold channels lanes samples) (sample : Sample) :
    LanesHold channels (lanes.map fun lane => lane.take sample ((samples.length + 1) % 8 = 0))
      (samples ++ [sample]) := by
  rw [LanesHold, List.forall₂_map_right_iff]
  refine h.imp fun channel lane hlane => ?_
  have htake := hlane.take sample
  rw [channelBits, List.length_map] at htake
  rw [channelBits, List.map_append, List.map_singleton]
  exact htake

theorem reset (h : LanesHold channels lanes samples) :
    LanesHold channels (lanes.map Lane.reset) [] := by
  rw [LanesHold, List.forall₂_map_right_iff]
  exact h.imp fun _ _ hlane => hlane.reset

/-- Lanes that hold a complete group show its lines. -/
theorem texts (h : LanesHold channels lanes samples) :
    lanes.map Lane.text = channels.map (fullLine samples) := by
  apply map_eq_map_of_forall₂ h
  intro channel lane hlane
  rw [hlane.text, channelBits, List.length_map]
  rfl

theorem laneLines (h : LanesHold channels lanes samples) :
    Encoder.laneLines lanes = unlines (channels.map (fullLine samples)) := by
  rw [Encoder.laneLines, unlines, ← h.texts, List.map_map]
  rfl

/-- Lanes that are completed show every sample they hold. -/
theorem laneLines_complete (h : LanesHold channels lanes samples) :
    Encoder.laneLines (lanes.map fun lane => lane.complete (samples.length % 8))
      = unlines (channels.map (lastLine samples)) := by
  rw [Encoder.laneLines, unlines, List.map_map, List.map_map, map_eq_map_of_forall₂ h]
  intro channel lane hlane
  have htext := hlane.text_complete
  rw [channelBits, List.length_map] at htext
  rw [Function.comp_apply, htext]
  rfl

/-- What is left of completed lanes after they have been reset holds nothing. -/
theorem reset_complete (h : LanesHold channels lanes samples) (rest : Nat) :
    LanesHold channels ((lanes.map fun lane => lane.complete rest).map Lane.reset) [] := by
  rw [LanesHold, List.map_map, List.forall₂_map_right_iff]
  exact h.imp fun _ _ hlane => hlane.reset_complete rest

end LanesHold

/-! ### The encoder -/

namespace Encoder

/-- An encoder **holds** the samples of the group that is being filled. -/
structure Holds (e : Encoder) (channels : List Channel) (samples : List Sample) : Prop where
  filled : e.filled = samples.length
  room : samples.length < e.width
  lanes : LanesHold channels e.lanes samples

variable {e : Encoder} {channels : List Channel} {samples : List Sample}

@[simp] theorem width_push (e : Encoder) (sample : Sample) : (e.push sample).1.width = e.width := by
  rw [push]
  split <;> rfl

@[simp] theorem header_push (e : Encoder) (sample : Sample) :
    (e.push sample).1.header = e.header := by
  rw [push]
  split <;> rfl

/-- The encoder with a sample in its lanes, before it is seen whether the group is complete. -/
def counted (e : Encoder) (sample : Sample) : Encoder :=
  { e with
    lanes := e.lanes.map fun lane => lane.take sample ((e.filled + 1) % 8 = 0)
    filled := e.filled + 1
    samples := e.samples + 1 }

theorem push_eq (e : Encoder) (sample : Sample) :
    e.push sample = if e.filled + 1 = e.width then (e.counted sample).flush
      else (e.counted sample, "") := rfl

/-- What an encoder holds does not depend on whether the header is still to come. -/
theorem Holds.begun (h : e.Holds channels samples) :
    Holds { e with header := none } channels samples :=
  ⟨h.filled, h.room, h.lanes⟩

theorem Holds.lanes_counted (h : e.Holds channels samples) (sample : Sample) :
    LanesHold channels (e.counted sample).lanes (samples ++ [sample]) := by
  rw [counted, h.filled]
  exact h.lanes.take sample

/-- A sample that leaves the group incomplete brings out nothing and is held. -/
theorem Holds.push_of_room (h : e.Holds channels samples) (hroom : samples.length + 1 < e.width)
    (sample : Sample) :
    (e.push sample).1.Holds channels (samples ++ [sample]) ∧
      (e.push sample).1.mark = e.mark ∧ (e.push sample).2 = "" := by
  have hne : e.filled + 1 ≠ e.width := by rw [h.filled]; omega
  rw [push_eq, if_neg hne]
  refine ⟨⟨?_, ?_, h.lanes_counted sample⟩, rfl, rfl⟩
  · rw [List.length_append, List.length_singleton, ← h.filled]
    rfl
  · rw [List.length_append, List.length_singleton]
    exact hroom

/-- **A sample that completes the group brings out the group's text**, and uses up the mark if there
is a line to show it below. -/
theorem Holds.push_of_full (h : e.Holds channels samples) (hfull : samples.length + 1 = e.width)
    (sample : Sample) :
    (e.push sample).1.Holds channels [] ∧
      (e.push sample).1.mark = (if channels.isEmpty then e.mark else none) ∧
      (e.push sample).2 = groupText channels (samples ++ [sample]) e.mark := by
  have heq : e.filled + 1 = e.width := by rw [h.filled, hfull]
  have hlanes := h.lanes_counted sample
  rw [push_eq, if_pos heq, flush]
  refine ⟨⟨rfl, e.width_pos, hlanes.reset⟩, ?_, ?_⟩
  · rw [hlanes.isEmpty_eq]
    rfl
  · rw [groupText, hlanes.laneLines, hlanes.isEmpty_eq]
    split <;> rfl

/-- The end of the stream brings out what is held, and nothing is held after it. -/
theorem Holds.finish (h : e.Holds channels samples) :
    e.finish.1.Holds channels [] ∧
      e.finish.2 = if samples.isEmpty then "" else unlines (channels.map (lastLine samples)) := by
  cases samples with
  | nil =>
    have hzero : e.filled = 0 := h.filled
    rw [Encoder.finish, if_pos hzero]
    exact ⟨h, rfl⟩
  | cons sample samples =>
    have hne : e.filled ≠ 0 := by rw [h.filled, List.length_cons]; omega
    rw [Encoder.finish, if_neg hne]
    refine ⟨⟨rfl, e.width_pos, h.lanes.reset_complete _⟩, ?_⟩
    rw [h.filled]
    exact h.lanes.laneLines_complete

end Encoder

end CaptureReport.Report
