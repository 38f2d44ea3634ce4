import CaptureReport.Proofs.Report.Reset

/-!
# Channels do not interfere

What a report shows of a channel depends on the channel's own bits and on nothing else, and bits
that no selected channel reads depend on nothing and show nowhere. Two comparisons say so.

Packets **agree** on channels if they are of the same kind and sizes and hold the same bits for the
channels. One encoder that is given packets that agree cannot tell them apart: it is in the same
state after each of them, in every part.

Encoders **share** a lane if each has it among its lanes, at whatever place, and they are equally
far in their group and have the same mark. They may be encoders of devices that have nothing else in
common. Taken side by side they go on to share the lane, and the groups that come out of them show
the same line for it, below the same number of groups and with the same mark.

## Main results

* `Encoder.Holds.step_congr`, `Encoder.Holds.answers_congr`: packets that agree are answered alike.
* `Encoder.Shares.step`, `Encoder.Shares.after`: encoders that share a lane go on to share it, and
  show the same line for it.
* `textOf_step`: the text of an answer is the header, if it is due, and the groups that come out.
* `channels_apart`: all of this for the encoders of devices.
-/

namespace CaptureReport

/-- Beyond the last byte of a sample every bit is clear. -/
theorem Sample.bit_of_length_le {sample : Sample} {index : Nat} (h : sample.length ≤ index / 8) :
    sample.bit index = false := by
  rw [bit, List.getElem?_eq_none h]

namespace Report

/-! ### Packets that agree -/

/-- Packets **agree** on channels if they are of the same kind and sizes and hold the same bits for
those of the channels that a sample has room for. -/
inductive Agree (channels : List Channel) : Packet → Packet → Prop
  | trigger : Agree channels .trigger .trigger
  | block {b b' : Block} (hunit : b.unitSize = b'.unitSize)
      (hcount : b.sampleCount = b'.sampleCount)
      (hbits : ∀ channel ∈ channels, channel.index / 8 < b.unitSize →
        channelBits channel b.samples = channelBits channel b'.samples) :
      Agree channels (.block b) (.block b')
  | finish : Agree channels .finish .finish

/-- A block holds a clear bit for a channel that its samples have no room for. -/
theorem channelBits_of_le {channel : Channel} {b : Block} (h : b.unitSize ≤ channel.index / 8) :
    channelBits channel b.samples = List.replicate b.sampleCount false := by
  rw [List.eq_replicate_iff, channelBits, List.length_map, Block.length_samples]
  refine ⟨rfl, fun bit hbit => ?_⟩
  obtain ⟨sample, hsample, rfl⟩ := List.mem_map.mp hbit
  have hlen : sample.length = b.unitSize :=
    length_of_mem_cutSamples (Nat.div_mul_le_self _ _) hsample
  exact Sample.bit_of_length_le (hlen ▸ h)

namespace Encoder

variable {e e' : Encoder} {channels : List Channel} {held : List Sample}

/-- Whatever sample comes next, samples are held behind it. -/
theorem Holds.push (h : e.Holds channels held) (sample : Sample) :
    ∃ held', (e.push sample).1.Holds channels held' := by
  have hroom := h.room
  by_cases hfull : held.length + 1 = e.width
  · exact ⟨_, (h.push_of_full hfull sample).1⟩
  · exact ⟨_, (h.push_of_room (by omega) sample).1⟩

/-- Each lane reads the bit of a channel. -/
theorem Holds.index_mem (h : e.Holds channels held) {lane : Lane} (hlane : lane ∈ e.lanes) :
    ∃ channel ∈ channels, lane.index = channel.index := by
  obtain ⟨i, hi, rfl⟩ := List.getElem_of_mem hlane
  have hi' : i < channels.length := h.lanes.length_eq ▸ hi
  have hholds := h.lanes.get hi' hi
  exact ⟨channels[i], List.getElem_mem hi', hholds.index⟩

/-- Samples with the same bits for the channels do the same. -/
theorem Holds.push_congr (h : e.Holds channels held) {sample sample' : Sample}
    (hbits : ∀ channel ∈ channels, sample.bit channel.index = sample'.bit channel.index) :
    e.push sample = e.push sample' := by
  have hsame : e.counted sample = e.counted sample' := by
    rw [counted, counted]
    congr 1
    apply List.map_congr_left
    intro lane hlane
    obtain ⟨channel, hchannel, hindex⟩ := h.index_mem hlane
    rw [Lane.take, Lane.take, hindex, hbits channel hchannel]
  rw [push_eq, push_eq, hsame]

theorem Holds.pushAll_congr (h : e.Holds channels held) {samples samples' : List Sample}
    (hlen : samples.length = samples'.length)
    (hbits : ∀ channel ∈ channels, channelBits channel samples = channelBits channel samples')
    (text : String) : e.pushAll samples text = e.pushAll samples' text := by
  induction samples generalizing e held samples' text with
  | nil =>
    obtain rfl : samples' = [] := List.eq_nil_of_length_eq_zero hlen.symm
    rfl
  | cons sample samples ih =>
    cases samples' with
    | nil => cases hlen
    | cons sample' samples' =>
      have hhead : e.push sample = e.push sample' :=
        h.push_congr fun channel hchannel => (List.cons.inj (hbits channel hchannel)).1
      obtain ⟨held', hnext⟩ := h.push sample'
      rw [pushAll_cons, pushAll_cons, hhead]
      exact ih hnext (Nat.succ.inj hlen) (fun channel hchannel =>
        (List.cons.inj (hbits channel hchannel)).2) _

/-- **Packets that agree do the same**, and are answered alike. -/
theorem Holds.step_congr (h : e.Holds channels held) {packet packet' : Packet}
    (hagree : Agree channels packet packet') : e.step packet = e.step packet' := by
  cases hagree with
  | trigger => rfl
  | finish => rfl
  | @block b b' hunit hcount hbits =>
    by_cases hzero : b.unitSize = 0
    · rw [step_block_of_eq_zero e hzero, step_block_of_eq_zero e (hunit ▸ hzero)]
    · have hall : ∀ channel ∈ channels,
          channelBits channel b.samples = channelBits channel b'.samples := by
        intro channel hchannel
        by_cases hroom : channel.index / 8 < b.unitSize
        · exact hbits channel hchannel hroom
        · rw [channelBits_of_le (Nat.not_lt.mp hroom),
            channelBits_of_le (hunit ▸ Nat.not_lt.mp hroom), hcount]
      have hlen : b.samples.length = b'.samples.length := by
        rw [Block.length_samples, Block.length_samples, hcount]
      rw [step_block e hzero, step_block e (hunit ▸ hzero), h.begun.pushAll_congr hlen hall]

/-- Packets that agree, one after another. -/
theorem Holds.answers_congr (h : e.Holds channels held) {packets packets' : List Packet}
    (hagree : List.Forall₂ (Agree channels) packets packets') :
    e.answers packets = e.answers packets' ∧
      ∀ n, e.after (packets.take n) = e.after (packets'.take n) := by
  induction hagree generalizing e held with
  | nil => exact ⟨rfl, fun _ => rfl⟩
  | @cons packet packet' packets packets' hfirst hrest ih =>
    obtain ⟨held', hnext, -⟩ := (h.alike.step packet).2.holds
    obtain ⟨hanswers, hafter⟩ := ih hnext
    have hstep := h.step_congr hfirst
    refine ⟨?_, fun n => ?_⟩
    · rw [answers, answers, hanswers, hstep]
    · cases n with
      | zero => rfl
      | succ n =>
        rw [List.take_succ_cons, List.take_succ_cons, after_cons, after_cons, hafter n, hstep]

end Encoder

/-! ### Groups as they come out -/

/-- A group as it comes out: a line for each lane, and the mark that is shown below them. -/
structure ShownGroup where
  lines : List String
  mark : Option Nat
  deriving DecidableEq, Repr

namespace ShownGroup

def text (group : ShownGroup) : String :=
  unlines group.lines ++ (group.mark.map markLine).getD ""

/-- The group with one of its lines. -/
def only (group : ShownGroup) (i : Nat) : ShownGroup :=
  { group with lines := group.lines[i]?.toList }

/-- A group of one line is left as it is. -/
theorem only_zero {group : ShownGroup} (h : group.lines.length = 1) : group.only 0 = group := by
  obtain ⟨line, hline⟩ := List.length_eq_one_iff.mp h
  rw [only, hline, List.getElem?_cons_zero, Option.toList_some, ← hline]

end ShownGroup

namespace Encoder

/-- The group that comes out once a sample is in the lanes of an encoder. -/
def fullGroup (e : Encoder) : ShownGroup where
  lines := e.lanes.map Lane.text
  mark := if e.lanes.isEmpty then none else e.mark

/-- The group that the end of a stream brings out. -/
def lastGroup (e : Encoder) : ShownGroup where
  lines := e.lanes.map fun lane => (lane.complete (e.filled % 8)).text
  mark := none

/-- The groups that samples complete. -/
def completed (e : Encoder) : List Sample → List ShownGroup
  | [] => []
  | sample :: rest =>
    if e.filled + 1 = e.width then (e.counted sample).fullGroup :: completed (e.push sample).1 rest
    else completed (e.push sample).1 rest

/-- The **groups that a packet brings out**. -/
def groupsShown (e : Encoder) : Packet → List ShownGroup
  | .trigger => []
  | .block b => if b.unitSize = 0 then [] else completed { e with header := none } b.samples
  | .finish => if e.filled = 0 then [] else [e.lastGroup]

/-- The header if a packet brings it out. -/
def headerShown (e : Encoder) : Packet → String
  | .trigger | .finish => ""
  | .block b => if b.unitSize = 0 then "" else e.header.getD ""

theorem laneLines_eq_unlines (lanes : List Lane) :
    laneLines lanes = unlines (lanes.map Lane.text) := by
  rw [laneLines, unlines, List.map_map]
  rfl

theorem text_fullGroup (e : Encoder) : e.fullGroup.text = e.flush.2 := by
  rw [ShownGroup.text, fullGroup, flush, laneLines_eq_unlines]

theorem text_lastGroup (e : Encoder) :
    e.lastGroup.text = laneLines (e.lanes.map fun lane => lane.complete (e.filled % 8)) := by
  rw [ShownGroup.text, lastGroup, laneLines_eq_unlines, List.map_map]
  exact String.append_empty

/-- Samples bring out the groups that they complete. -/
theorem pushAll_text (e : Encoder) (samples : List Sample) (text : String) :
    (e.pushAll samples text).2
      = text ++ String.join ((e.completed samples).map ShownGroup.text) := by
  induction samples generalizing e text with
  | nil => exact String.append_empty.symm
  | cons sample samples ih =>
    rw [pushAll_cons, ih, completed, push_eq]
    split
    · rw [List.map_cons, String.join_cons, text_fullGroup, String.append_assoc]
    · rw [String.append_empty]

/-- **The text of an answer** is the header, if it is due, and the groups that come out. -/
theorem textOf_step (e : Encoder) (packet : Packet) :
    textOf (e.step packet).1
      = e.headerShown packet ++ String.join ((e.groupsShown packet).map ShownGroup.text) := by
  cases packet with
  | trigger => rfl
  | finish =>
    rw [step_finish, textOf_someText, finish, groupsShown, headerShown, String.empty_append]
    split
    · rfl
    · rw [List.map_singleton, text_lastGroup, String.join_cons, String.join_nil,
        String.append_empty]
  | block b =>
    rw [groupsShown, headerShown]
    by_cases hunit : b.unitSize = 0
    · rw [step_block_of_eq_zero e hunit, if_pos hunit, if_pos hunit]
      rfl
    · rw [step_block e hunit, if_neg hunit, if_neg hunit, textOf_someText, pushAll_text]

/-! ### Encoders that share a lane -/

/-- Encoders **share** a lane if it is the `i`-th of the one and the `j`-th of the other, and they
are equally far in their group and have the same mark. -/
structure Shares (i j : Nat) (e e' : Encoder) : Prop where
  width : e.width = e'.width
  filled : e.filled = e'.filled
  mark : e.mark = e'.mark
  lane : ∃ lane, e.lanes[i]? = some lane ∧ e'.lanes[j]? = some lane

variable {e e' : Encoder} {i j : Nat}

/-- An encoder that shares a lane has lanes. -/
theorem isEmpty_of_getElem? {lanes : List Lane} {lane : Lane} (h : lanes[i]? = some lane) :
    lanes.isEmpty = false := by
  cases lanes with
  | nil => simp at h
  | cons lane lanes => rfl

theorem Shares.isEmpty_eq (h : Shares i j e e') : e.lanes.isEmpty = e'.lanes.isEmpty := by
  obtain ⟨lane, hlane, hlane'⟩ := h.lane
  rw [isEmpty_of_getElem? hlane, isEmpty_of_getElem? hlane']

/-- What is done to every lane is done to the shared one. -/
theorem Shares.map (h : Shares i j e e') (f : Lane → Lane) :
    ∃ lane, (e.lanes.map f)[i]? = some lane ∧ (e'.lanes.map f)[j]? = some lane := by
  obtain ⟨lane, hlane, hlane'⟩ := h.lane
  refine ⟨f lane, ?_, ?_⟩
  · rw [List.getElem?_map, hlane, Option.map_some]
  · rw [List.getElem?_map, hlane', Option.map_some]

/-- Encoders that share a lane show the same line for it. -/
theorem Shares.line_eq (h : Shares i j e e') (f : Lane → String) :
    (e.lanes.map f)[i]? = (e'.lanes.map f)[j]? := by
  obtain ⟨lane, hlane, hlane'⟩ := h.lane
  rw [List.getElem?_map, List.getElem?_map, hlane, hlane']

theorem Shares.counted (h : Shares i j e e') (sample : Sample) :
    Shares i j (e.counted sample) (e'.counted sample) := by
  refine ⟨h.width, congrArg (· + 1) h.filled, h.mark, ?_⟩
  rw [Encoder.counted, Encoder.counted, ← h.filled]
  exact h.map _

/-- A group that comes out shows the line of the shared lane, and uses up the mark in both encoders:
neither is without lanes. -/
theorem Shares.flush (h : Shares i j e e') :
    Shares i j e.flush.1 e'.flush.1 ∧ e.fullGroup.only i = e'.fullGroup.only j := by
  refine ⟨⟨h.width, rfl, ?_, h.map _⟩, ?_⟩
  · rw [Encoder.flush, Encoder.flush, h.isEmpty_eq, h.mark]
  · rw [ShownGroup.only, ShownGroup.only, fullGroup, fullGroup, h.line_eq, h.isEmpty_eq, h.mark]

theorem Shares.push (h : Shares i j e e') (sample : Sample) :
    Shares i j (e.push sample).1 (e'.push sample).1 := by
  have hcounted := h.counted sample
  rw [push_eq, push_eq, h.filled, h.width]
  split
  · exact hcounted.flush.1
  · exact hcounted

theorem Shares.pushAll (h : Shares i j e e') (samples : List Sample) (text text' : String) :
    Shares i j (e.pushAll samples text).1 (e'.pushAll samples text').1 := by
  induction samples generalizing e e' text text' with
  | nil => exact h
  | cons sample samples ih => exact ih (h.push sample) _ _

theorem Shares.completed (h : Shares i j e e') (samples : List Sample) :
    (e.completed samples).map (·.only i) = (e'.completed samples).map (·.only j) := by
  induction samples generalizing e e' with
  | nil => rfl
  | cons sample samples ih =>
    have hrest := ih (h.push sample)
    rw [Encoder.completed, Encoder.completed, h.filled, h.width]
    split
    · rw [List.map_cons, List.map_cons, hrest, (h.counted sample).flush.2]
    · exact hrest

theorem Shares.finish (h : Shares i j e e') : Shares i j e.finish.1 e'.finish.1 := by
  rw [Encoder.finish, Encoder.finish, h.filled]
  split
  · exact h
  · refine ⟨h.width, rfl, h.mark, ?_⟩
    dsimp only
    rw [List.map_map, List.map_map]
    exact h.map _

/-- **One packet leaves the lane shared**, and brings out the same line for it. -/
theorem Shares.step (h : Shares i j e e') (packet : Packet) :
    Shares i j (e.step packet).2 (e'.step packet).2 ∧
      (e.groupsShown packet).map (·.only i) = (e'.groupsShown packet).map (·.only j) := by
  cases packet with
  | trigger => exact ⟨⟨h.width, h.filled, congrArg some h.filled, h.lane⟩, rfl⟩
  | finish =>
    refine ⟨h.finish, ?_⟩
    rw [groupsShown, groupsShown, h.filled]
    split
    · rfl
    · rw [List.map_singleton, List.map_singleton, ShownGroup.only, ShownGroup.only, lastGroup,
        lastGroup, h.filled, h.line_eq]
  | block b =>
    rw [groupsShown, groupsShown]
    by_cases hunit : b.unitSize = 0
    · rw [step_block_of_eq_zero e hunit, step_block_of_eq_zero e' hunit, if_pos hunit, if_pos hunit]
      exact ⟨h, rfl⟩
    · have hbegun : Shares i j { e with header := none } { e' with header := none } :=
        ⟨h.width, h.filled, h.mark, h.lane⟩
      rw [step_block e hunit, step_block e' hunit, if_neg hunit, if_neg hunit]
      exact ⟨hbegun.pushAll _ _ _, hbegun.completed _⟩

/-- Any packets leave the lane shared. -/
theorem Shares.after (h : Shares i j e e') (packets : List Packet) :
    Shares i j (e.after packets) (e'.after packets) := by
  induction packets generalizing e e' with
  | nil => exact h
  | cons packet packets ih => exact ih (h.step packet).1

theorem length_lines_completed {n : Nat} (hlanes : e.lanes.length = n) (samples : List Sample) :
    ∀ group ∈ e.completed samples, group.lines.length = n := by
  induction samples generalizing e with
  | nil => simp [Encoder.completed]
  | cons sample samples ih =>
    have hcounted : (e.counted sample).lanes.length = n := by
      rw [Encoder.counted, List.length_map, hlanes]
    have hpush : (e.push sample).1.lanes.length = n := by
      rw [push_eq]
      split
      · rw [Encoder.flush, List.length_map, hcounted]
      · exact hcounted
    rw [Encoder.completed]
    split
    · intro group hgroup
      rcases List.mem_cons.mp hgroup with rfl | hrest
      · rw [fullGroup, List.length_map, hcounted]
      · exact ih hpush group hrest
    · exact ih hpush

/-- A group that comes out has a line for each lane. -/
theorem length_lines_groupsShown (packet : Packet) :
    ∀ group ∈ e.groupsShown packet, group.lines.length = e.lanes.length := by
  cases packet with
  | trigger => simp [groupsShown]
  | finish =>
    rw [groupsShown]
    split
    · simp
    · simp [lastGroup]
  | block b =>
    rw [groupsShown]
    split
    · simp
    · exact length_lines_completed rfl b.samples

/-! ### The encoders of devices -/

variable {device : Device} {text : Option String} {width : Nat}

/-- A new encoder has a lane for each selected channel, in order, and nothing else. -/
theorem lanes_ofDevice (hnew : ofDevice device text = .ok e) :
    e.lanes = device.selected.map Lane.ofChannel ∧ e.filled = 0 ∧ e.mark = none := by
  rw [ofDevice] at hnew
  split at hnew
  · cases hnew
  · cases hnew
    exact ⟨rfl, rfl, rfl⟩

/-- New encoders share the lane of a channel that both devices have selected. -/
theorem exists_shares {other : Device} {text' : Option String} {channel channel' : Channel}
    (hnew : ofDevice device text = .ok e) (hwidth' : chosenWidth text' = .ok e.width)
    (hchannel : device.selected[i]? = some channel)
    (hchannel' : other.selected[j]? = some channel') (hindex : channel'.index = channel.index)
    (hname : channel'.name = channel.name) :
    ∃ e', ofDevice other text' = .ok e' ∧ e'.Holds other.selected [] ∧ Shares i j e e' := by
  obtain ⟨e', hnew', hfollows⟩ := exists_ofDevice other hwidth'
  obtain ⟨hlanes, hfilled, hmark⟩ := lanes_ofDevice hnew
  obtain ⟨hlanes', hfilled', hmark'⟩ := lanes_ofDevice hnew'
  have hlane : Lane.ofChannel channel' = Lane.ofChannel channel := by
    rw [Lane.ofChannel, Lane.ofChannel, hindex, hname]
  refine ⟨e', hnew', by simpa [Recording.rest] using hfollows.holds, hfollows.width_eq.symm,
    hfilled.trans hfilled'.symm, hmark.trans hmark'.symm, Lane.ofChannel channel, ?_, ?_⟩
  · rw [hlanes, List.getElem?_map, hchannel, Option.map_some]
  · rw [hlanes', List.getElem?_map, hchannel', Option.map_some, hlane]

/-- However many packets it is given, an encoder has a lane for each selected channel. -/
theorem Holds.length_lanes_after {held : List Sample} (h : e.Holds device.selected held)
    (packets : List Packet) : (e.after packets).lanes.length = device.selected.length := by
  obtain ⟨_, hholds, -⟩ := (h.alike.after packets).holds
  exact hholds.lanes.length_eq.symm

end Encoder

/-- **Channels do not interfere.** Packets that agree on the selected channels are answered alike
and leave the same state. The text of an answer is the header, if it is due, and groups with a line
for each selected channel in device order, and the line of a channel is that of the device on which
no other channel is selected; it is the same for any two devices that have the channel selected,
whatever else they have. -/
theorem channels_apart (device : Device) {text : Option String} {width : Nat}
    (hwidth : chosenWidth text = .ok width) :
    ∃ e, Encoder.ofDevice device text = .ok e ∧
      (∀ packets packets', List.Forall₂ (Agree device.selected) packets packets' →
        e.answers packets = e.answers packets' ∧
          ∀ n, e.after (packets.take n) = e.after (packets'.take n)) ∧
      (∀ packets packet,
        let state := e.after packets
        textOf (state.step packet).1 = state.headerShown packet ++
            String.join ((state.groupsShown packet).map ShownGroup.text) ∧
          ∀ group ∈ state.groupsShown packet, group.lines.length = device.selected.length) ∧
      (∀ (other : Device) (text' : Option String) (i : Nat) (channel : Channel),
        chosenWidth text' = .ok width → device.selected[i]? = some channel →
        other.selected = [channel] →
        ∃ alone, Encoder.ofDevice other text' = .ok alone ∧
          ∀ packets packet, (alone.after packets).groupsShown packet
            = ((e.after packets).groupsShown packet).map (·.only i)) ∧
      ∀ (other : Device) (text' : Option String) (i j : Nat) (channel channel' : Channel),
        chosenWidth text' = .ok width → device.selected[i]? = some channel →
        other.selected[j]? = some channel' → channel'.index = channel.index →
        channel'.name = channel.name →
        ∃ e', Encoder.ofDevice other text' = .ok e' ∧
          ∀ packets packet, ((e.after packets).groupsShown packet).map (·.only i)
            = ((e'.after packets).groupsShown packet).map (·.only j) := by
  obtain ⟨e, hnew, hfollows⟩ := Encoder.exists_ofDevice device hwidth
  have hsame : width = e.width := hfollows.width_eq.symm
  refine ⟨e, hnew, fun packets packets' => hfollows.holds.answers_congr, ?_, ?_, ?_⟩
  · intro packets packet
    refine ⟨Encoder.textOf_step _ packet, fun group hgroup => ?_⟩
    rw [Encoder.length_lines_groupsShown packet group hgroup, hfollows.holds.length_lanes_after]
  · intro other text' i channel hwidth' hchannel hother
    have hfirst : other.selected[0]? = some channel := by rw [hother, List.getElem?_cons_zero]
    obtain ⟨alone, hnew', hholds, hshares⟩ :=
      Encoder.exists_shares hnew (hsame ▸ hwidth') hchannel hfirst rfl rfl
    refine ⟨alone, hnew', fun packets packet => ?_⟩
    have hlines : ∀ group ∈ (alone.after packets).groupsShown packet, group.only 0 = group := by
      intro group hgroup
      apply ShownGroup.only_zero
      rw [Encoder.length_lines_groupsShown packet group hgroup, hholds.length_lanes_after, hother,
        List.length_singleton]
    rw [((hshares.after packets).step packet).2, List.map_congr_left hlines, List.map_id']
  · intro other text' i j channel channel' hwidth' hchannel hchannel' hindex hname
    obtain ⟨e', hnew', -, hshares⟩ :=
      Encoder.exists_shares hnew (hsame ▸ hwidth') hchannel hchannel' hindex hname
    exact ⟨e', hnew', fun packets packet => ((hshares.after packets).step packet).2⟩

/-- Two selected channels of four on lines that are no whole number of bytes wide, with samples of
two sizes and a trigger in the group that is cut short; one of the two alone, and behind a
stranger. -/
theorem channels_apart_ten :
    let device : Device :=
      { channels := [{ index := 9, name := "HI" }, { index := 3, kind := .analog, name := "A" },
          { index := 0, name := "LO" }, { index := 1, enabled := false, name := "OFF" }] }
    let only : Device :=
      { channels := [{ index := 9, enabled := false, name := "HI" }, { index := 0, name := "LO" }] }
    let other : Device :=
      { channels := [{ index := 1, name := "B" },
          { index := 0, name := "LO", trigger := some "r" }] }
    let packets : List Packet :=
      [.block ⟨2, List.replicate 26 255⟩, .trigger, .block ⟨1, [1, 0, 1]⟩, .finish]
    let packets' : List Packet :=
      [.block ⟨2, (List.replicate 13 [1, 2]).flatten ++ [7]⟩, .trigger, .block ⟨1, [3, 2, 5]⟩,
        .finish]
    chosenWidth (some "10") = .ok 10 ∧ chosenWidth (some " 10") = .ok 10 ∧
      List.Forall₂ (Agree device.selected) packets packets' ∧
      device.selected[1]? = some { index := 0, name := "LO" } ∧
      only.selected = [{ index := 0, name := "LO" }] ∧
      other.selected[1]? = some { index := 0, name := "LO", trigger := some "r" } ∧
      ∃ e alone e', Encoder.ofDevice device (some "10") = .ok e ∧
        Encoder.ofDevice only (some "10") = .ok alone ∧
        Encoder.ofDevice other (some " 10") = .ok e' ∧
        e.answers packets = e.answers packets' ∧
        (∀ n, e.after (packets.take n) = e.after (packets'.take n)) ∧
        (∀ n packet, (alone.after (packets.take n)).groupsShown packet
          = ((e.after (packets.take n)).groupsShown packet).map (·.only 1)) ∧
        (∀ n packet, ((e.after (packets.take n)).groupsShown packet).map (·.only 1)
          = ((e'.after (packets.take n)).groupsShown packet).map (·.only 1)) ∧
        (e.after (packets.take 3)).groupsShown .finish = [⟨["HI:e0 ", "LO:f4 "], none⟩] := by
  intro device only other packets packets'
  have hwidth : chosenWidth (some "10") = .ok 10 := rfl
  have hwidth' : chosenWidth (some " 10") = .ok 10 := rfl
  have hagree : List.Forall₂ (Agree device.selected) packets packets' :=
    .cons (.block rfl rfl (by decide)) (.cons .trigger
      (.cons (.block rfl rfl (by decide)) (.cons .finish .nil)))
  have hchannel : device.selected[1]? = some { index := 0, name := "LO" } := rfl
  have honly : only.selected = [{ index := 0, name := "LO" }] := rfl
  have hother : other.selected[1]? = some { index := 0, name := "LO", trigger := some "r" } := rfl
  obtain ⟨e, hnew, hsame, -, halone, hothers⟩ := channels_apart device hwidth
  obtain ⟨alone, hnewAlone, hlines⟩ := halone only _ 1 _ hwidth hchannel honly
  obtain ⟨e', hnew', hlines'⟩ := hothers other _ 1 1 _ _ hwidth' hchannel hother rfl rfl
  obtain ⟨hanswers, hafter⟩ := hsame packets packets' hagree
  have hlast : (e.after (packets.take 3)).groupsShown .finish
      = [⟨["HI:e0 ", "LO:f4 "], none⟩] := by
    cases hnew
    decide
  exact ⟨hwidth, hwidth', hagree, hchannel, honly, hother, e, alone, e', hnew, hnewAlone, hnew',
    hanswers, hafter, fun n => hlines _, fun n => hlines' _, hlast⟩

end Report

end CaptureReport
