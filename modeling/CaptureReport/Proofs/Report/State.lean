import CaptureReport.Proofs.Report.Decoding
import CaptureReport.Proofs.Report.Reset

/-!
# The state of an encoder

An encoder may be given the ends of several streams, blocks that it refuses, and triggers anywhere.
This module says what its state is after any packets at all. The packets are parted into the
recordings of **streams**: those that are over, and the one that goes on. What the encoder shows and
keeps in its lanes is the group of the present stream that is not complete yet; its totals count the
samples of all streams, their complete groups, and the groups that the ends of streams cut short.

The mark is known to lie within a line and no more: the end of a stream leaves it in place, so it
need not belong to the present stream.

The **shape** of a packet is its kind and, for a block, its sizes. How far the group is filled and
what the totals are depends on the shapes of the packets alone.

## Main results

* `Encoder.Tracks.step`, `Encoder.Tracks.after`: one packet keeps the invariant, and so do any
  number of packets.
* `Streams.lengths_ofPackets`: shapes decide how long the streams are.
* `state_after`: the state of an encoder, field by field.
-/

namespace CaptureReport.Report

/-! ### Streams -/

/-- The **streams** that packets amount to: the recordings of those that are over, and of the one
that goes on. -/
structure Streams where
  ended : List Recording := []
  current : Recording := {}
  deriving DecidableEq, Repr

namespace Streams

/-- The streams with one more packet. The end of a stream begins the next one. -/
def add (s : Streams) : Packet → Streams
  | .trigger => { s with current := s.current.add .trigger }
  | .block b => { s with current := s.current.add (.block b) }
  | .finish => { ended := s.ended ++ [s.current.add .finish] }

def ofPackets (packets : List Packet) : Streams :=
  packets.foldl add {}

/-- How many samples the streams have, those that are over in order and the present one. -/
def lengths (s : Streams) : List Nat × Nat :=
  (s.ended.map (·.samples.length), s.current.samples.length)

/-- The samples of all streams. -/
def sampleCount (s : Streams) : Nat :=
  (s.ended.map (·.samples.length)).sum + s.current.samples.length

/-- The complete groups of all streams. -/
def completeGroups (s : Streams) (width : Nat) : Nat :=
  (s.ended.map (·.groupCount width)).sum + s.current.groupCount width

/-- The groups that the end of a stream **cut short**. -/
def shortGroups (s : Streams) (width : Nat) : Nat :=
  s.ended.countP (fun r => r.rest width ≠ [])

/-- The streams with one more sample in the present one. -/
def push (s : Streams) (sample : Sample) : Streams :=
  { s with current := s.current.push sample }

variable {s : Streams} {width : Nat}

/-- Samples that are taken in one after another are taken in together. -/
theorem foldl_push (samples : List Sample) (s : Streams) :
    samples.foldl push s
      = { s with current := { s.current with samples := s.current.samples ++ samples } } := by
  induction samples generalizing s with
  | nil => rw [List.foldl_nil, List.append_nil]
  | cons sample samples ih =>
    rw [List.foldl_cons, ih, push, Recording.push, List.append_assoc, List.singleton_append]

theorem sampleCount_push (s : Streams) (sample : Sample) :
    (s.push sample).sampleCount = s.sampleCount + 1 := by
  rw [sampleCount, push, Recording.length_samples_push, ← Nat.add_assoc, sampleCount]

theorem completeGroups_push_of_room (h : (s.current.rest width).length + 1 < width)
    (sample : Sample) : (s.push sample).completeGroups width = s.completeGroups width := by
  rw [completeGroups, push, Recording.groupCount_push_of_room h, completeGroups]

theorem completeGroups_push_of_full (h : (s.current.rest width).length + 1 = width)
    (sample : Sample) : (s.push sample).completeGroups width = s.completeGroups width + 1 := by
  rw [completeGroups, push, Recording.groupCount_push_of_full h, ← Nat.add_assoc, completeGroups]

/-- An end moves the samples of the present stream to those of the streams that are over. -/
theorem sampleCount_add_finish (s : Streams) : (s.add .finish).sampleCount = s.sampleCount := by
  simp [sampleCount, add, Recording.add]

theorem completeGroups_add_finish (s : Streams) (width : Nat) :
    (s.add .finish).completeGroups width = s.completeGroups width := by
  simp [completeGroups, add, Recording.add, Recording.groupCount]

theorem shortGroups_add_finish (s : Streams) (width : Nat) :
    (s.add .finish).shortGroups width
      = s.shortGroups width + if s.current.rest width = [] then 0 else 1 := by
  have hsame : (s.current.add .finish).rest width = s.current.rest width := rfl
  rw [shortGroups, add, List.countP_append, List.countP_singleton, hsame, shortGroups]
  by_cases hnil : s.current.rest width = []
  · simp [hnil]
  · simp [hnil]

/-- The samples of the streams are those of the packets. -/
theorem sampleCount_foldl_add (packets : List Packet) (s : Streams) :
    (packets.foldl add s).sampleCount
      = s.sampleCount + (packets.flatMap packetSamples).length := by
  induction packets generalizing s with
  | nil => rfl
  | cons packet packets ih =>
    have hadd : (s.add packet).sampleCount = s.sampleCount + (packetSamples packet).length := by
      cases packet with
      | trigger => rfl
      | finish => exact sampleCount_add_finish s
      | block b =>
        by_cases hunit : b.unitSize = 0
        · simp [add, sampleCount, Recording.add, packetSamples, hunit]
        · simp [add, sampleCount, Recording.add, packetSamples, hunit, Nat.add_assoc]
    rw [List.foldl_cons, ih, hadd, List.flatMap_cons, List.length_append, Nat.add_assoc]

end Streams

/-! ### Shapes -/

/-- The kind of a packet and, for a block, its sizes. -/
inductive Shape
  | trigger
  | block (unitSize length : Nat)
  | finish
  deriving DecidableEq, Repr

/-- The **shape** of a packet. -/
def shape : Packet → Shape
  | .trigger => .trigger
  | .block b => .block b.unitSize b.data.length
  | .finish => .finish

/-- What a packet of a shape makes of the lengths of the streams before it. -/
def Shape.extend (lengths : List Nat × Nat) : Shape → List Nat × Nat
  | .trigger => lengths
  | .block unitSize length => (lengths.1, lengths.2 + length / unitSize)
  | .finish => (lengths.1 ++ [lengths.2], 0)

namespace Streams

theorem lengths_add (s : Streams) (packet : Packet) :
    (s.add packet).lengths = (shape packet).extend s.lengths := by
  cases packet with
  | trigger => rfl
  | finish => simp [lengths, add, Recording.add, shape, Shape.extend]
  | block b =>
    rw [lengths, add, Recording.add, shape, Shape.extend, lengths]
    split
    · rename_i hunit
      rw [hunit, Nat.div_zero, Nat.add_zero]
    · rw [List.length_append, Block.length_samples, Block.sampleCount]

/-- **Shapes decide how long the streams are.** -/
theorem lengths_ofPackets (packets : List Packet) :
    (ofPackets packets).lengths = (packets.map shape).foldl Shape.extend ([], 0) := by
  have hfold : ∀ s : Streams, (packets.foldl add s).lengths
      = (packets.map shape).foldl Shape.extend s.lengths := by
    induction packets with
    | nil => exact fun s => rfl
    | cons packet packets ih =>
      intro s
      rw [List.foldl_cons, ih, lengths_add, List.map_cons, List.foldl_cons]
  exact hfold {}

variable {s s' : Streams}

theorem sampleCount_congr (h : s.lengths = s'.lengths) : s.sampleCount = s'.sampleCount := by
  obtain ⟨hended, hcurrent⟩ := Prod.mk.inj h
  rw [sampleCount, hended, hcurrent, sampleCount]

theorem completeGroups_congr (h : s.lengths = s'.lengths) (width : Nat) :
    s.completeGroups width = s'.completeGroups width := by
  have hlengths : ∀ t : Streams, t.completeGroups width
      = (t.lengths.1.map (· / width)).sum + t.lengths.2 / width := by
    intro t
    rw [completeGroups, lengths, List.map_map]
    rfl
  rw [hlengths, hlengths, h]

theorem shortGroups_congr (h : s.lengths = s'.lengths) (width : Nat) :
    s.shortGroups width = s'.shortGroups width := by
  have hlengths : ∀ t : Streams, t.shortGroups width
      = t.lengths.1.countP (fun length => length % width ≠ 0) := by
    intro t
    rw [shortGroups, lengths, List.countP_map]
    apply List.countP_congr
    intro r _
    rw [Function.comp_apply, ← Recording.length_rest]
    simp [List.eq_nil_iff_length_eq_zero]
  rw [hlengths, hlengths, h]

theorem length_rest_congr (h : s.lengths = s'.lengths) (width : Nat) :
    (s.current.rest width).length = (s'.current.rest width).length := by
  obtain ⟨-, hcurrent⟩ := Prod.mk.inj h
  rw [Recording.length_rest, Recording.length_rest, hcurrent]

end Streams

/-! ### The invariant -/

namespace Encoder

@[simp] theorem samples_push (e : Encoder) (sample : Sample) :
    (e.push sample).1.samples = e.samples + 1 := by
  rw [push]
  split <;> rfl

theorem groups_push (e : Encoder) (sample : Sample) :
    (e.push sample).1.groups = e.groups + if e.filled + 1 = e.width then 1 else 0 := by
  rw [push]
  split <;> rfl

@[simp] theorem samples_finish (e : Encoder) : e.finish.1.samples = e.samples := by
  rw [finish]
  split <;> rfl

theorem groups_finish (e : Encoder) :
    e.finish.1.groups = e.groups + if e.filled = 0 then 0 else 1 := by
  rw [finish]
  split <;> rfl

/-- An encoder **tracks** streams if it holds the group of the present stream that is not complete,
its mark lies within a line, and its totals are those of the streams. -/
structure Tracks (e : Encoder) (device : Device) (width : Nat) (s : Streams) : Prop where
  width_eq : e.width = width
  holds : e.Holds device.selected (s.current.rest width)
  mark : ∀ m ∈ e.mark, m < width
  samples : e.samples = s.sampleCount
  groups : e.groups = s.completeGroups width + s.shortGroups width

variable {e : Encoder} {device : Device} {width : Nat} {s : Streams}

/-- A new encoder tracks no streams at all. -/
theorem exists_tracks (device : Device) {text : Option String} (h : chosenWidth text = .ok width) :
    ∃ e, ofDevice device text = .ok e ∧ e.Tracks device width {} := by
  obtain ⟨e, hnew, hfollows⟩ := exists_ofDevice device h
  refine ⟨e, hnew, hfollows.width_eq, hfollows.holds, ?_, ?_, ?_⟩
  all_goals
    rw [ofDevice] at hnew
    split at hnew
    · cases hnew
    · cases hnew
      simp [Streams.sampleCount, Streams.completeGroups, Streams.shortGroups, Recording.groupCount]

theorem Tracks.push (h : e.Tracks device width s) (sample : Sample) :
    (e.push sample).1.Tracks device width (s.push sample) := by
  have hwidth : (e.push sample).1.width = width := (width_push e sample).trans h.width_eq
  have hsamples : (e.push sample).1.samples = (s.push sample).sampleCount := by
    rw [samples_push, Streams.sampleCount_push, h.samples]
  have hroom := h.holds.room
  by_cases hfull : (s.current.rest width).length + 1 = e.width
  · obtain ⟨hholds, hmark, -⟩ := h.holds.push_of_full hfull sample
    rw [h.width_eq] at hfull
    refine ⟨hwidth, ?_, ?_, hsamples, ?_⟩
    · rw [Streams.push, Recording.rest_push_of_full hfull]
      exact hholds
    · -- Without a lane to be shown below, the mark is not used up and stays as it was.
      intro m hm
      rw [hmark] at hm
      split at hm
      · exact h.mark m hm
      · cases hm
    · rw [groups_push, h.holds.filled, h.width_eq, if_pos hfull,
        Streams.completeGroups_push_of_full hfull, h.groups, Nat.add_right_comm]
      rfl
  · have hlt : (s.current.rest width).length + 1 < e.width := by omega
    obtain ⟨hholds, hmark, -⟩ := h.holds.push_of_room hlt sample
    rw [h.width_eq] at hlt hfull
    refine ⟨hwidth, ?_, ?_, hsamples, ?_⟩
    · rw [Streams.push, Recording.rest_push_of_room hlt]
      exact hholds
    · rw [hmark]
      exact h.mark
    · rw [groups_push, h.holds.filled, h.width_eq, if_neg hfull,
        Streams.completeGroups_push_of_room hlt, h.groups]
      rfl

/-- The samples of a block, one after another. -/
theorem Tracks.pushAll (h : e.Tracks device width s) (samples : List Sample) (text : String) :
    (e.pushAll samples text).1.Tracks device width (samples.foldl Streams.push s) := by
  induction samples generalizing e s text with
  | nil => exact h
  | cons sample samples ih =>
    rw [pushAll_cons]
    exact ih (h.push sample) _

theorem Tracks.add_block (h : e.Tracks device width s) (b : Block) :
    (e.step (.block b)).2.Tracks device width (s.add (.block b)) := by
  by_cases hunit : b.unitSize = 0
  · rw [step_block_of_eq_zero e hunit, Streams.add, Recording.add, if_pos hunit]
    exact h
  · have hbegun : Tracks { e with header := none } device width
        { s with current := { s.current with begun := true } } :=
      ⟨h.width_eq, ⟨h.holds.filled, h.holds.room, h.holds.lanes⟩, h.mark, h.samples, h.groups⟩
    have hall := hbegun.pushAll b.samples (e.header.getD "")
    rw [Streams.foldl_push] at hall
    rw [step_block e hunit, Streams.add, Recording.add, if_neg hunit]
    exact hall

/-- A mark is set within the line: the group that is being filled is never full. -/
theorem Tracks.add_trigger (h : e.Tracks device width s) :
    (e.step .trigger).2.Tracks device width (s.add .trigger) := by
  refine ⟨h.width_eq, ⟨h.holds.filled, h.holds.room, h.holds.lanes⟩, ?_, h.samples, h.groups⟩
  intro m hm
  obtain rfl : e.filled = m := Option.some.inj hm
  rw [h.holds.filled]
  exact Nat.lt_of_lt_of_eq h.holds.room h.width_eq

theorem Tracks.add_finish (h : e.Tracks device width s) :
    (e.step .finish).2.Tracks device width (s.add .finish) := by
  obtain ⟨hholds, -⟩ := h.holds.finish
  rw [step_finish]
  refine ⟨(width_finish e).trans h.width_eq, ?_, ?_, ?_, ?_⟩
  · simpa [Streams.add, Recording.rest] using hholds
  · rw [mark_finish]
    exact h.mark
  · rw [samples_finish, h.samples, Streams.sampleCount_add_finish]
  · have hempty : e.filled = 0 ↔ s.current.rest width = [] := by
      rw [h.holds.filled, List.length_eq_zero_iff]
    rw [groups_finish, h.groups, Streams.completeGroups_add_finish,
      Streams.shortGroups_add_finish, Nat.add_assoc]
    simp only [hempty]

/-- **One packet keeps the invariant**, whatever it is. -/
theorem Tracks.step (h : e.Tracks device width s) (packet : Packet) :
    (e.step packet).2.Tracks device width (s.add packet) := by
  cases packet with
  | trigger => exact h.add_trigger
  | block b => exact h.add_block b
  | finish => exact h.add_finish

/-- **Any packets keep the invariant.** -/
theorem Tracks.after (h : e.Tracks device width s) (packets : List Packet) :
    (e.after packets).Tracks device width (packets.foldl Streams.add s) := by
  induction packets generalizing e s with
  | nil => exact h
  | cons packet packets ih => exact ih (h.step packet)

/-- What the lanes of an encoder show and keep. -/
theorem Tracks.lanes (h : e.Tracks device width s) :
    List.Forall₂ (fun channel lane =>
      lane.text = lineText channel.name
        (packBytes (e.filled / 8) (channelBits channel (s.current.rest width))) ∧
      lane.accumulator.toNat % 2 ^ (e.filled % 8)
        = binary ((channelBits channel (s.current.rest width)).drop (8 * (e.filled / 8))))
      device.selected e.lanes := by
  refine h.holds.lanes.imp fun channel lane hlane => ?_
  have hlen : (channelBits channel (s.current.rest width)).length = e.filled := by
    rw [channelBits, List.length_map, h.holds.filled]
  have haccumulator := hlane.accumulator
  rw [Lane.length_pending, Lane.pending, hlen] at haccumulator
  exact ⟨hlen ▸ hlane.text, haccumulator⟩

/-- Encoders with lines of one width that track streams of the same lengths have the same
numbers. -/
theorem Tracks.numbers_eq {e' : Encoder} {device' : Device} {s' : Streams}
    (h : e.Tracks device width s) (h' : e'.Tracks device' width s')
    (hlengths : s.lengths = s'.lengths) :
    e.filled = e'.filled ∧ e.samples = e'.samples ∧ e.groups = e'.groups := by
  refine ⟨?_, ?_, ?_⟩
  · rw [h.holds.filled, h'.holds.filled, Streams.length_rest_congr hlengths]
  · rw [h.samples, h'.samples, Streams.sampleCount_congr hlengths]
  · rw [h.groups, h'.groups, Streams.completeGroups_congr hlengths,
      Streams.shortGroups_congr hlengths]

end Encoder

/-- **The state of an encoder** after any packets: fewer samples than a line has room for are being
filled in, the mark lies within a line, every lane shows the full bytes of the group that is not
complete and keeps the bits behind them in the low bits of its accumulator, and the totals are those
of all streams. How far the group is filled and what the totals are depends on the width and the
shapes of the packets alone. -/
theorem state_after (device : Device) {text : Option String} {width : Nat}
    (hwidth : chosenWidth text = .ok width) (packets : List Packet) :
    ∃ e, Encoder.ofDevice device text = .ok e ∧
      let state := e.after packets
      let streams := Streams.ofPackets packets
      let group := streams.current.rest width
      state.width = width ∧ state.filled < width ∧ state.filled = group.length ∧
      (∀ mark ∈ state.mark, mark < width) ∧
      List.Forall₂ (fun channel lane =>
        lane.text = lineText channel.name
          (packBytes (state.filled / 8) (channelBits channel group)) ∧
        lane.accumulator.toNat % 2 ^ (state.filled % 8)
          = binary ((channelBits channel group).drop (8 * (state.filled / 8))))
        device.selected state.lanes ∧
      state.samples = (packets.flatMap packetSamples).length ∧
      state.groups = streams.completeGroups width + streams.shortGroups width ∧
      ∀ (device' : Device) (text' : Option String) (packets' : List Packet),
        chosenWidth text' = .ok width → packets.map shape = packets'.map shape →
        ∃ e', Encoder.ofDevice device' text' = .ok e' ∧
          state.filled = (e'.after packets').filled ∧
          state.samples = (e'.after packets').samples ∧
          state.groups = (e'.after packets').groups := by
  obtain ⟨e, hnew, hstart⟩ := Encoder.exists_tracks device hwidth
  have htracks := hstart.after packets
  have hroom := htracks.holds.room
  rw [← htracks.holds.filled, htracks.width_eq] at hroom
  refine ⟨e, hnew, htracks.width_eq, hroom, htracks.holds.filled, htracks.mark, htracks.lanes, ?_,
    htracks.groups, ?_⟩
  · rw [htracks.samples, Streams.sampleCount_foldl_add]
    exact Nat.zero_add _
  · intro device' text' packets' hwidth' hshapes
    obtain ⟨e', hnew', hstart'⟩ := Encoder.exists_tracks device' hwidth'
    refine ⟨e', hnew', htracks.numbers_eq (hstart'.after packets') ?_⟩
    have hlengths := Streams.lengths_ofPackets packets
    rw [hshapes, ← Streams.lengths_ofPackets] at hlengths
    exact hlengths

/-- The state within a line that is no whole number of bytes wide, behind a group that left bits in
the accumulators, a stream that was cut short with its mark outstanding, a block that is refused and
an end of nothing; and the numbers of an encoder with other channels and other bytes. -/
theorem state_after_twelve :
    let device : Device :=
      { channels := [{ index := 9, name := "HI" }, { index := 0, name := "LO" }] }
    let other : Device := { channels := [{ index := 3, name := "D3" }] }
    let packets (byte : UInt8) : List Packet :=
      [.block ⟨2, List.replicate 50 255⟩, .trigger, .finish, .block ⟨0, [7]⟩, .finish,
        .block ⟨1, List.replicate 23 byte⟩]
    let group : List Sample := List.replicate 11 [1]
    chosenWidth (some "12") = .ok 12 ∧ chosenWidth (some "+12") = .ok 12 ∧
      (packets 1).map shape = (packets 8).map shape ∧
      ∃ e e', Encoder.ofDevice device (some "12") = .ok e ∧
        Encoder.ofDevice other (some "+12") = .ok e' ∧
        let state := e.after (packets 1)
        state.filled = 11 ∧ (∀ mark ∈ state.mark, mark < 12) ∧
        List.Forall₂ (fun channel lane =>
          lane.text = lineText channel.name (packBytes 1 (channelBits channel group)) ∧
          lane.accumulator.toNat % 2 ^ 3 = binary ((channelBits channel group).drop 8))
          device.selected state.lanes ∧
        state.samples = 48 ∧ state.groups = 3 + 1 ∧
        state.filled = (e'.after (packets 8)).filled ∧
        state.samples = (e'.after (packets 8)).samples ∧
        state.groups = (e'.after (packets 8)).groups := by
  intro device other packets group
  have hwidth : chosenWidth (some "12") = .ok 12 := rfl
  have hwidth' : chosenWidth (some "+12") = .ok 12 := rfl
  have hshapes : (packets 1).map shape = (packets 8).map shape := rfl
  obtain ⟨e, hnew, -, -, hfilled, hmark, hlanes, hsamples, hgroups, hothers⟩ :=
    state_after device hwidth (packets 1)
  obtain ⟨e', hnew', hsame⟩ := hothers other (some "+12") (packets 8) hwidth' hshapes
  have hgroup : (Streams.ofPackets (packets 1)).current.rest 12 = group := by decide
  have hcount : (e.after (packets 1)).filled = 11 := hfilled.trans (congrArg List.length hgroup)
  have htotal : (Streams.ofPackets (packets 1)).completeGroups 12
      + (Streams.ofPackets (packets 1)).shortGroups 12 = 3 + 1 := by decide
  rw [hgroup, hcount] at hlanes
  exact ⟨hwidth, hwidth', hshapes, e, e', hnew, hnew', hcount, hmark, hlanes, hsamples,
    hgroups.trans htotal, hsame⟩

end CaptureReport.Report
