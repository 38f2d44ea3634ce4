import CaptureReport.Proofs.Report.Binary
import CaptureReport.Report.Encoder

/-!
# The layout of a report

What the report of a stream is, said of the stream as a whole and without an encoder. A
**recording** is what packets amount to once their boundaries are gone: whether any data has come,
the complete samples in one row, how many samples stood before each trigger, and whether the stream
is over.

The samples are numbered from zero and cut into groups of one line's width. A complete group shows
each selected channel in a line of its own, as many cells as there are full bytes in the width, and
below the last one the latest trigger that fell into the group. Samples that are left over come out
only if the stream is over, with their last cell filled up by clear bits, and no trigger is shown
below them.

## Main results

* `groupLines_push_of_room`, `groupLines_push_of_full`: a sample that leaves its group incomplete
  changes none of the lines so far, and one that completes it adds the lines of that group.
* `groupLines_add_trigger`: a trigger changes none of the lines so far.
-/

namespace CaptureReport.Report

/-- What a stream of packets amounts to once their boundaries are gone. -/
structure Recording where
  /-- Whether a block has come whose samples are at least one byte wide. -/
  begun : Bool := false
  /-- The complete samples, in order. -/
  samples : List Sample := []
  /-- For each trigger, how many samples came before it. -/
  triggers : List Nat := []
  /-- Whether the stream is over. -/
  ended : Bool := false
  deriving DecidableEq, Repr

namespace Recording

/-- The recording with one more sample. -/
def push (r : Recording) (sample : Sample) : Recording :=
  { r with samples := r.samples ++ [sample] }

/-- The recording with one more packet. -/
def add (r : Recording) : Packet → Recording
  | .trigger => { r with triggers := r.triggers ++ [r.samples.length] }
  | .block b =>
    if b.unitSize = 0 then r else { r with begun := true, samples := r.samples ++ b.samples }
  | .finish => { r with ended := true }

/-- The recording of a stream. -/
def ofPackets (packets : List Packet) : Recording :=
  packets.foldl add {}

/-- How many groups are complete. -/
def groupCount (r : Recording) (width : Nat) : Nat :=
  r.samples.length / width

/-- The samples of a group. -/
def group (r : Recording) (width g : Nat) : List Sample :=
  (r.samples.drop (width * g)).take width

/-- The samples behind the last complete group. -/
def rest (r : Recording) (width : Nat) : List Sample :=
  r.samples.drop (width * r.groupCount width)

/-- Where in a group the latest trigger fell, if one did. -/
def mark (r : Recording) (width g : Nat) : Option Nat :=
  (r.triggers.filter (· / width = g)).getLast?.map (· % width)

end Recording

/-! ### Lines -/

/-- The bits that samples hold for a channel. -/
def channelBits (channel : Channel) (samples : List Sample) : List Bool :=
  samples.map (·.bit channel.index)

/-- The first `count` bytes of a row of bits; a byte that the row does not fill has clear bits at
its bottom. -/
def packBytes (count : Nat) (bits : List Bool) : List UInt8 :=
  (List.range count).map fun i => packByte ((bits.drop (8 * i)).take 8)

/-- A channel's line for a complete group: the full bytes. -/
def fullLine (samples : List Sample) (channel : Channel) : String :=
  lineText channel.name (packBytes (samples.length / 8) (channelBits channel samples))

/-- A channel's line for the samples that are left over at the end: all bytes, the last one filled
up. -/
def lastLine (samples : List Sample) (channel : Channel) : String :=
  lineText channel.name (packBytes ((samples.length + 7) / 8) (channelBits channel samples))

/-- Lines, each ended. -/
def unlines (lines : List String) : String :=
  String.join (lines.map (· ++ "\n"))

/-- What a complete group brings out. With no channel to stand below, no trigger is shown. -/
def groupText (channels : List Channel) (samples : List Sample) (mark : Option Nat) : String :=
  unlines (channels.map (fullLine samples)) ++
    if channels.isEmpty then "" else (mark.map markLine).getD ""

/-- What all complete groups of a recording bring out. -/
def groupLines (channels : List Channel) (width : Nat) (r : Recording) : String :=
  String.join ((List.range (r.groupCount width)).map fun g =>
    groupText channels (r.group width g) (r.mark width g))

/-- What the end of a recording brings out. -/
def lastLines (channels : List Channel) (width : Nat) (r : Recording) : String :=
  if (r.rest width).isEmpty then "" else unlines (channels.map (lastLine (r.rest width)))

/-- **The layout of a report**: the header as soon as data has come, the complete groups, and at
the end what is left over. -/
def layout (device : Device) (width : Nat) (r : Recording) : String :=
  (if r.begun then header device else "") ++ groupLines device.selected width r ++
    if r.ended then lastLines device.selected width r else ""

/-! ### Recordings as they grow -/

theorem Recording.ofPackets_concat (packets : List Packet) (packet : Packet) :
    Recording.ofPackets (packets ++ [packet]) = (Recording.ofPackets packets).add packet := by
  rw [ofPackets, List.foldl_append]
  rfl

/-- A block adds its samples, unless they are empty. -/
theorem Recording.add_block (r : Recording) {unitSize : Nat} (hunit : 0 < unitSize)
    (data : List UInt8) :
    r.add (.block { unitSize, data }) =
      { r with begun := true, samples := r.samples ++ (Block.mk unitSize data).samples } :=
  if_neg (Nat.ne_of_gt hunit)

/-- A trigger stands behind the samples so far. -/
theorem Recording.add_trigger (r : Recording) :
    r.add .trigger = { r with triggers := r.triggers ++ [r.samples.length] } :=
  rfl

/-- Samples that are taken in one after another are taken in together. -/
theorem Recording.foldl_push (r : Recording) (samples : List Sample) :
    samples.foldl push r = { r with samples := r.samples ++ samples } := by
  induction samples generalizing r with
  | nil => rw [List.foldl_nil, List.append_nil]
  | cons sample samples ih => rw [List.foldl_cons, ih, push, List.append_assoc]; rfl

section Counting

variable {n width : Nat}

/-- Within a group the number of complete groups stays. -/
theorem succ_div_of_room (h : n % width + 1 < width) : (n + 1) / width = n / width := by
  have hsum : n + 1 = width * (n / width) + (n % width + 1) := by
    rw [← Nat.add_assoc, Nat.div_add_mod]
  rw [hsum, Nat.mul_add_div (by omega), Nat.div_eq_of_lt h, Nat.add_zero]

/-- The last sample of a group completes it. -/
theorem succ_div_of_full (h : n % width + 1 = width) : (n + 1) / width = n / width + 1 := by
  have hsum : n + 1 = width * (n / width) + (n % width + 1) := by
    rw [← Nat.add_assoc, Nat.div_add_mod]
  rw [hsum, h, Nat.mul_add_div (by omega), Nat.div_self (by omega)]

/-- A complete group lies within the samples. -/
theorem mul_add_le_of_lt_div {g : Nat} (h : g < n / width) : width * g + width ≤ n := by
  calc width * g + width = width * (g + 1) := (Nat.mul_succ width g).symm
    _ ≤ width * (n / width) := Nat.mul_le_mul_left width h
    _ ≤ n := Nat.mul_div_le n width

end Counting

namespace Recording

variable {r : Recording} {width : Nat}

@[simp] theorem length_samples_push (r : Recording) (sample : Sample) :
    (r.push sample).samples.length = r.samples.length + 1 := by
  rw [push, List.length_append, List.length_singleton]

@[simp] theorem length_rest (r : Recording) (width : Nat) :
    (r.rest width).length = r.samples.length % width := by
  have hsum := Nat.div_add_mod r.samples.length width
  rw [rest, groupCount, List.length_drop]
  omega

theorem groupCount_push_of_room (h : (r.rest width).length + 1 < width) (sample : Sample) :
    (r.push sample).groupCount width = r.groupCount width := by
  rw [length_rest] at h
  rw [groupCount, length_samples_push, succ_div_of_room h, groupCount]

theorem groupCount_push_of_full (h : (r.rest width).length + 1 = width) (sample : Sample) :
    (r.push sample).groupCount width = r.groupCount width + 1 := by
  rw [length_rest] at h
  rw [groupCount, length_samples_push, succ_div_of_full h, groupCount]

/-- A sample that leaves its group incomplete joins the ones that are left over. -/
theorem rest_push_of_room (h : (r.rest width).length + 1 < width) (sample : Sample) :
    (r.push sample).rest width = r.rest width ++ [sample] := by
  have hle : width * r.groupCount width ≤ r.samples.length := Nat.mul_div_le _ _
  rw [rest, groupCount_push_of_room h, push, List.drop_append_of_le_length hle, rest]

/-- Behind a sample that completes its group nothing is left over. -/
theorem rest_push_of_full (h : (r.rest width).length + 1 = width) (sample : Sample) :
    (r.push sample).rest width = [] := by
  have hsum := Nat.div_add_mod r.samples.length width
  rw [length_rest] at h
  apply List.drop_eq_nil_of_le
  rw [groupCount, length_samples_push, succ_div_of_full h, Nat.mul_succ]
  omega

/-- A complete group stays as it is when samples are added. -/
theorem group_of_begin {r' : Recording} {g : Nat} (h : r.samples <+: r'.samples)
    (hg : g < r.groupCount width) : r'.group width g = r.group width g := by
  obtain ⟨more, hmore⟩ := h
  have hle := mul_add_le_of_lt_div hg
  rw [group, ← hmore, List.drop_append_of_le_length (by omega),
    List.take_append_of_le_length (by rw [List.length_drop]; omega), group]

theorem group_push {g : Nat} (h : g < r.groupCount width) (sample : Sample) :
    (r.push sample).group width g = r.group width g :=
  group_of_begin ⟨[sample], rfl⟩ h

/-- The group that a sample completes is made up of what was left over and the sample. -/
theorem group_push_of_full (h : (r.rest width).length + 1 = width) (sample : Sample) :
    (r.push sample).group width (r.groupCount width) = r.rest width ++ [sample] := by
  have hle : width * r.groupCount width ≤ r.samples.length := Nat.mul_div_le _ _
  rw [group, push, List.drop_append_of_le_length hle, ← rest, List.take_of_length_le]
  rw [List.length_append, List.length_singleton, h]

/-- Triggers outside of a group are not shown in it. -/
theorem mark_of_outside {r' : Recording} {g : Nat} {later : List Nat}
    (htriggers : r'.triggers = r.triggers ++ later) (hout : ∀ t ∈ later, t / width ≠ g) :
    r'.mark width g = r.mark width g := by
  have hnone : later.filter (· / width = g) = [] := by
    apply List.filter_eq_nil_iff.mpr
    intro t ht
    rw [decide_eq_true_eq]
    exact hout t ht
  rw [mark, htriggers, List.filter_append, hnone, List.append_nil, mark]

/-- A trigger is not shown in a group that is already complete. -/
theorem mark_add_trigger {g : Nat} (h : g < r.groupCount width) :
    (r.add .trigger).mark width g = r.mark width g := by
  have hadded : (r.add .trigger).triggers = r.triggers ++ [r.samples.length] := rfl
  apply mark_of_outside hadded
  intro t ht
  rw [List.mem_singleton.mp ht]
  exact Nat.ne_of_gt h

/-- A trigger is the latest one in the group that is being filled. -/
theorem mark_add_trigger_self (r : Recording) (width : Nat) :
    (r.add .trigger).mark width (r.groupCount width) = some (r.rest width).length := by
  simp only [mark, add, groupCount, List.filter_append, List.filter_singleton, decide_true,
    cond_true, List.getLast?_concat, Option.map_some, length_rest]

/-- A group that no sample has come for has no trigger. -/
theorem mark_eq_none {g : Nat} (htriggers : ∀ t ∈ r.triggers, t / width < g) :
    r.mark width g = none := by
  have hnil : r.triggers.filter (· / width = g) = [] := by
    apply List.filter_eq_nil_iff.mpr
    intro t ht
    have hlt := htriggers t ht
    rw [decide_eq_true_eq]
    omega
  rw [mark, hnil]
  rfl

end Recording

/-! ### Lines as they come out -/

section Lines

variable {r : Recording} {width : Nat} (channels : List Channel)

/-- A sample that leaves its group incomplete changes none of the lines so far. -/
theorem groupLines_push_of_room (h : (r.rest width).length + 1 < width) (sample : Sample) :
    groupLines channels width (r.push sample) = groupLines channels width r := by
  rw [groupLines, Recording.groupCount_push_of_room h, groupLines]
  congr 1
  apply List.map_congr_left
  intro g hg
  rw [Recording.group_push (List.mem_range.mp hg)]
  rfl

/-- A sample that completes its group adds the lines of that group. -/
theorem groupLines_push_of_full (h : (r.rest width).length + 1 = width) (sample : Sample) :
    groupLines channels width (r.push sample)
      = groupLines channels width r ++
        groupText channels (r.rest width ++ [sample]) (r.mark width (r.groupCount width)) := by
  have hsame : ∀ g ∈ List.range (r.groupCount width),
      groupText channels ((r.push sample).group width g) ((r.push sample).mark width g)
        = groupText channels (r.group width g) (r.mark width g) := by
    intro g hg
    rw [Recording.group_push (List.mem_range.mp hg)]
    rfl
  rw [groupLines, Recording.groupCount_push_of_full h, List.range_succ, List.map_append,
    List.map_congr_left hsame, String.join_append, List.map_singleton,
    Recording.group_push_of_full h, String.join_cons, String.join_nil, String.append_empty]
  rfl

/-- A trigger changes none of the lines so far. -/
theorem groupLines_add_trigger (r : Recording) (width : Nat) :
    groupLines channels width (r.add .trigger) = groupLines channels width r := by
  rw [groupLines, groupLines]
  congr 1
  apply List.map_congr_left
  intro g hg
  rw [Recording.mark_add_trigger (r := r) (List.mem_range.mp hg)]
  rfl

end Lines

end CaptureReport.Report
