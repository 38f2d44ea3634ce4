import CaptureReport.Proofs.Report.Lane
import CaptureReport.Proofs.Report.Lines
import CaptureReport.Proofs.Report.Streaming
import CaptureReport.Proofs.Samples

/-!
# Reading a report back

A report is **decoded** for a channel from its text alone: of the lines that have the channel's name
for a key, every word is read as a byte, and every byte gives eight bits, the most significant one
first. A word that is no byte makes the decoding fail.

What a report shows of a channel are its bits, except for those that do not fill a byte of a
complete group. So nothing is lost if lines are a whole number of bytes wide. Names have to tell the
channels apart, and none may contain a colon or a line feed or be the key of the line that points at
a trigger.

## Main results

* `payloads_layoutLines`: the lines of a layout that belong to a channel, and nothing else.
* `decode_layout`: a layout is decoded to what it shows.
* `shownBits_of_dvd`: what is shown of lines that are a whole number of bytes wide is everything.
* `decode_report`: a capture is encoded and decoded again.
-/

namespace CaptureReport.Report

open Text

/-! ### Decoding -/

/-- The bits that a report shows under a name, if it can be **decoded**. -/
def decode (report name : String) : Option (List Bool) :=
  ((((lines report.toList).filterMap (payload? name)).flatMap words).mapM hexByte?).map
    (·.flatMap byteBits)

theorem words_cells (bytes : List UInt8) : words (cells bytes) = bytes.map hexPair := by
  induction bytes with
  | nil => rfl
  | cons byte bytes ih =>
    have hbyte : byte.toNat < 256 := byte.toNat_lt
    have hhigh := isBlank_digitChar (show byte.toNat / 16 < 16 by omega)
    have hlow := isBlank_digitChar (Nat.mod_lt byte.toNat (by decide : 0 < 16))
    have hpair : ∀ c ∈ hexPair byte, isBlank c = false := by
      intro c hc
      rcases List.mem_cons.mp hc with rfl | hc
      · exact hhigh
      · rw [List.mem_singleton.mp hc]
        exact hlow
    have hne : hexPair byte ≠ [] := List.cons_ne_nil _ _
    have hblank : isBlank ' ' = true := by decide
    rw [cells, List.flatMap_cons, List.append_assoc, List.singleton_append,
      words_cons hne hpair hblank, ← cells, ih, List.map_cons]

theorem mapM_hexByte? (bytes : List UInt8) : (bytes.map hexPair).mapM hexByte? = some bytes := by
  induction bytes with
  | nil => rfl
  | cons byte bytes ih =>
    rw [List.map_cons, List.mapM_cons, hexByte?_hexPair, ih]
    rfl

/-- Lines whose cells under a name show several rows of bytes are decoded to the bits of all
rows. -/
theorem decode_unlines {ls : List String} {name : String} {rows : List (List UInt8)}
    (hlines : ∀ line ∈ ls, IsLine line)
    (hrows : (ls.map String.toList).filterMap (payload? name) = rows.map cells) :
    decode (unlines ls) name = some (rows.flatten.flatMap byteBits) := by
  have hwords : (rows.map cells).flatMap words = rows.flatten.map hexPair := by
    rw [List.flatMap_map]
    simp only [words_cells, List.map_flatten, List.flatMap_def]
  rw [decode, lines_unlines hlines, hrows, hwords, mapM_hexByte?, Option.map_some]

/-! ### The lines of one channel -/

/-- Names by which the lines of channels can be told apart, from each other and from all other
lines. -/
structure TellApart (channels : List Channel) : Prop where
  nodup : (channels.map (·.name)).Nodup
  noColon : ∀ channel ∈ channels, ':' ∉ channel.name.toList
  noFeed : ∀ channel ∈ channels, '\n' ∉ channel.name.toList
  notPointer : ∀ channel ∈ channels, channel.name ≠ "T"

variable {device : Device} {channels : List Channel} {channel : Channel} {width : Nat}
  {r : Recording}

/-- Of all channels with a name there is one. -/
theorem filterMap_name {α : Type} (f : Channel → α) (hnodup : (channels.map (·.name)).Nodup)
    (hmem : channel ∈ channels) :
    channels.filterMap (fun other => if other.name = channel.name then some (f other) else none)
      = [f channel] := by
  induction channels with
  | nil => cases hmem
  | cons first rest ih =>
    rw [List.map_cons, List.nodup_cons] at hnodup
    obtain ⟨hfirst, hrest⟩ := hnodup
    rcases List.mem_cons.mp hmem with rfl | hmem
    · have hothers : ∀ other ∈ rest,
          (if other.name = channel.name then some (f other) else none) = none := by
        intro other hother
        refine if_neg fun heq => hfirst ?_
        rw [← heq]
        exact List.mem_map_of_mem hother
      simp only [List.filterMap_cons, if_true, List.filterMap_eq_nil_iff.mpr hothers]
    · have hne : first.name ≠ channel.name := by
        intro heq
        rw [heq] at hfirst
        exact hfirst (List.mem_map_of_mem hmem)
      simp only [List.filterMap_cons, if_neg hne, ih hrest hmem]

/-- Among the lines of all channels there is one for each. -/
theorem payloads_channels (h : TellApart channels) (hmem : channel ∈ channels)
    (bytes : Channel → List UInt8) :
    ((channels.map fun other => lineText other.name (bytes other)).map String.toList).filterMap
        (payload? channel.name)
      = [cells (bytes channel)] := by
  have hkey := h.noColon channel hmem
  have hpayload : ∀ other ∈ channels,
      payload? channel.name (lineText other.name (bytes other)).toList
        = if other.name = channel.name then some (cells (bytes other)) else none := by
    intro other hother
    rw [toList_lineText, payload?_keyed hkey (h.noColon other hother)]
  rw [List.map_map, List.filterMap_map]
  exact (List.filterMap_congr hpayload).trans (filterMap_name _ h.nodup hmem)

/-- The other lines of a group belong to no channel. -/
theorem payloads_pointer (h : TellApart channels) (hmem : channel ∈ channels) (marks : List Nat) :
    ((marks.map pointerLine).map String.toList).filterMap (payload? channel.name) = [] := by
  refine List.filterMap_eq_nil_iff.mpr fun line hline => ?_
  rw [List.map_map] at hline
  obtain ⟨mark, -, rfl⟩ := List.mem_map.mp hline
  obtain ⟨-, rest, hrest⟩ := pointerLine_spec mark
  rw [Function.comp_apply, hrest, payload?_keyed (h.noColon channel hmem) (by decide)]
  exact if_neg (h.notPointer channel hmem).symm

theorem payloads_headerLines (device : Device) (name : String) :
    ((headerLines device).map String.toList).filterMap (payload? name) = [] := by
  refine List.filterMap_eq_nil_iff.mpr fun line hline => ?_
  obtain ⟨text, htext, rfl⟩ := List.mem_map.mp hline
  exact payload?_eq_none (isPlain_of_mem_headerLines htext).isLine.2 name

theorem payloads_fullGroupLines (h : TellApart channels) (hmem : channel ∈ channels)
    (samples : List Sample) (mark : Option Nat) :
    ((fullGroupLines channels samples mark).map String.toList).filterMap (payload? channel.name)
      = [cells (packBytes (samples.length / 8) (channelBits channel samples))] := by
  have hpointer : ∀ lines, lines = (if channels.isEmpty then [] else mark.toList.map pointerLine) →
      (lines.map String.toList).filterMap (payload? channel.name) = [] := by
    rintro lines rfl
    cases channels.isEmpty with
    | true => rfl
    | false => exact payloads_pointer h hmem mark.toList
  rw [fullGroupLines, List.map_append, List.filterMap_append, hpointer _ rfl, List.append_nil]
  exact payloads_channels h hmem _

theorem payloads_lastGroupLines (h : TellApart channels) (hmem : channel ∈ channels)
    (samples : List Sample) :
    ((lastGroupLines channels samples).map String.toList).filterMap (payload? channel.name)
      = if samples.isEmpty then []
        else [cells (packBytes ((samples.length + 7) / 8) (channelBits channel samples))] := by
  rw [lastGroupLines]
  cases samples.isEmpty with
  | true => rfl
  | false => exact payloads_channels h hmem _

/-- The rows of bytes that a layout shows of a channel: one for each complete group, and one for
what is left over. -/
def shownRows (channel : Channel) (width : Nat) (r : Recording) : List (List UInt8) :=
  ((List.range (r.groupCount width)).map fun g =>
      packBytes ((r.group width g).length / 8) (channelBits channel (r.group width g))) ++
    if (r.rest width).isEmpty then []
    else [packBytes (((r.rest width).length + 7) / 8) (channelBits channel (r.rest width))]

/-- **The lines of a layout that belong to a channel**, if the stream is over. -/
theorem payloads_layoutLines (h : TellApart device.selected) (hmem : channel ∈ device.selected)
    (hended : r.ended = true) :
    ((layoutLines device width r).map String.toList).filterMap (payload? channel.name)
      = (shownRows channel width r).map cells := by
  have hheader : ∀ lines, lines = (if r.begun then headerLines device else []) →
      (lines.map String.toList).filterMap (payload? channel.name) = [] := by
    rintro lines rfl
    cases r.begun with
    | true => exact payloads_headerLines device channel.name
    | false => rfl
  have hgroups :
      (((List.range (r.groupCount width)).flatMap fun g =>
          fullGroupLines device.selected (r.group width g) (r.mark width g)).map
            String.toList).filterMap (payload? channel.name)
        = (List.range (r.groupCount width)).map fun g =>
          cells (packBytes ((r.group width g).length / 8)
            (channelBits channel (r.group width g))) := by
    rw [List.map_flatMap, List.filterMap_flatMap, List.map_eq_flatMap]
    simp only [payloads_fullGroupLines h hmem]
  rw [layoutLines, hended, if_pos rfl, List.map_append, List.map_append, List.filterMap_append,
    List.filterMap_append, hheader _ rfl, hgroups, payloads_lastGroupLines h hmem, shownRows,
    List.map_append, List.map_map]
  cases (r.rest width).isEmpty <;> rfl

/-- All lines of a layout are read as they were written. -/
theorem isLine_layoutLines (h : TellApart device.selected) {line : String}
    (hline : line ∈ layoutLines device width r) : IsLine line := by
  have hchannels : ∀ bytes : Channel → List UInt8,
      line ∈ device.selected.map (fun channel => lineText channel.name (bytes channel)) →
        IsLine line := by
    intro bytes hmem
    obtain ⟨channel, hchannel, rfl⟩ := List.mem_map.mp hmem
    exact isLine_lineText (h.noFeed channel hchannel) _
  rw [layoutLines, List.mem_append, List.mem_append] at hline
  rcases hline with (hheader | hgroup) | hlast
  · split at hheader
    · exact (isPlain_of_mem_headerLines hheader).isLine.1
    · cases hheader
  · obtain ⟨g, -, hgroup⟩ := List.mem_flatMap.mp hgroup
    rcases List.mem_append.mp hgroup with hfull | hpointer
    · exact hchannels _ hfull
    · split at hpointer
      · cases hpointer
      · obtain ⟨mark, -, rfl⟩ := List.mem_map.mp hpointer
        exact (pointerLine_spec mark).1
  · split at hlast
    · rw [lastGroupLines] at hlast
      split at hlast
      · cases hlast
      · exact hchannels _ hlast
    · cases hlast

/-- **A layout is decoded to what it shows.** -/
theorem decode_layout (h : TellApart device.selected) (hmem : channel ∈ device.selected)
    (hended : r.ended = true) :
    decode (layout device width r) channel.name
      = some ((shownRows channel width r).flatten.flatMap byteBits) := by
  rw [layout_eq_unlines]
  exact decode_unlines (fun line hline => isLine_layoutLines h hline)
    (payloads_layoutLines h hmem hended)

/-! ### What is shown -/

/-- Bits with clear bits behind them, up to the next full byte. -/
def fillByte (bits : List Bool) : List Bool :=
  bits ++ List.replicate (8 * ((bits.length + 7) / 8) - bits.length) false

/-- What a report **shows** of the bits of a channel: of every complete group the full bytes, and at
the end everything that is left over, filled up. -/
def shownBits (width : Nat) (bits : List Bool) : List Bool :=
  ((List.range (bits.length / width)).flatMap fun g =>
      (bits.drop (width * g)).take (8 * (width / 8))) ++
    fillByte (bits.drop (width * (bits.length / width)))

theorem byteBits_packBytes (count : Nat) (bits : List Bool) :
    (packBytes count bits).flatMap byteBits
      = bits.take (8 * count) ++ List.replicate (8 * count - bits.length) false := by
  induction count with
  | zero => simp
  | succ count ih =>
    have hlen : ((bits.drop (8 * count)).take 8).length ≤ 8 := List.length_take_le _ _
    rw [packBytes_succ, List.flatMap_append, ih, List.flatMap_singleton, byteBits_packByte hlen,
      Nat.mul_succ, List.take_add]
    rcases Nat.le_total (8 * count) bits.length with hle | hle
    · have hnone : 8 * count - bits.length = 0 := Nat.sub_eq_zero_of_le hle
      have hsame : 8 - ((bits.drop (8 * count)).take 8).length = 8 * count + 8 - bits.length := by
        rw [List.length_take, List.length_drop]
        omega
      rw [hnone, hsame, List.replicate_zero, List.append_nil, List.append_assoc]
    · have hsum : 8 * count - bits.length + 8 = 8 * count + 8 - bits.length := by omega
      rw [List.drop_eq_nil_of_le hle, List.take_nil, List.nil_append, List.length_nil,
        Nat.sub_zero, List.append_nil, List.append_assoc, List.replicate_append_replicate, hsum]

theorem length_group {g : Nat} (h : g < r.groupCount width) : (r.group width g).length = width := by
  have hle := mul_add_le_of_lt_div h
  rw [Recording.group, List.length_take, List.length_drop]
  omega

theorem channelBits_group (channel : Channel) (r : Recording) (width g : Nat) :
    channelBits channel (r.group width g)
      = ((channelBits channel r.samples).drop (width * g)).take width := by
  rw [channelBits, Recording.group, List.map_take, List.map_drop, channelBits]

theorem channelBits_rest (channel : Channel) (r : Recording) (width : Nat) :
    channelBits channel (r.rest width)
      = (channelBits channel r.samples).drop (width * r.groupCount width) := by
  rw [channelBits, Recording.rest, List.map_drop, channelBits]

/-- The full bytes of a complete group. -/
theorem byteBits_group (channel : Channel) {g : Nat} (h : g < r.groupCount width) :
    (packBytes ((r.group width g).length / 8) (channelBits channel (r.group width g))).flatMap
        byteBits
      = ((channelBits channel r.samples).drop (width * g)).take (8 * (width / 8)) := by
  have hlen := length_group h
  have hbits : (channelBits channel (r.group width g)).length = width := by
    rw [channelBits, List.length_map, hlen]
  have hle : 8 * (width / 8) ≤ width := Nat.mul_div_le width 8
  rw [byteBits_packBytes, hbits, hlen, Nat.sub_eq_zero_of_le hle, List.replicate_zero,
    List.append_nil, channelBits_group, List.take_take, Nat.min_eq_left hle]

/-- All bytes of what is left over at the end. -/
theorem byteBits_rest (channel : Channel) (samples : List Sample) :
    (packBytes ((samples.length + 7) / 8) (channelBits channel samples)).flatMap byteBits
      = fillByte (channelBits channel samples) := by
  have hbits : (channelBits channel samples).length = samples.length := List.length_map _
  rw [byteBits_packBytes, fillByte, hbits, List.take_of_length_le]
  omega

/-- What is shown of a channel, as bits. -/
theorem byteBits_shownRows (channel : Channel) (width : Nat) (r : Recording) :
    (shownRows channel width r).flatten.flatMap byteBits
      = shownBits width (channelBits channel r.samples) := by
  have hcount : (channelBits channel r.samples).length / width = r.groupCount width := by
    rw [channelBits, List.length_map, Recording.groupCount]
  have hlast : (if (r.rest width).isEmpty then []
      else [packBytes (((r.rest width).length + 7) / 8)
        (channelBits channel (r.rest width))]).flatten.flatMap byteBits
      = fillByte (channelBits channel (r.rest width)) := by
    by_cases hempty : r.rest width = []
    · simp [hempty, channelBits, fillByte]
    · rw [if_neg (by rwa [List.isEmpty_iff]), List.flatten_singleton, byteBits_rest]
  have hgroups : ((List.range (r.groupCount width)).map fun g =>
      packBytes ((r.group width g).length / 8)
        (channelBits channel (r.group width g))).flatten.flatMap byteBits
      = (List.range (r.groupCount width)).flatMap fun g =>
        ((channelBits channel r.samples).drop (width * g)).take (8 * (width / 8)) := by
    rw [← List.flatMap_def, List.flatMap_assoc]
    exact List.flatMap_congr fun g hg => byteBits_group channel (List.mem_range.mp hg)
  rw [shownRows, List.flatten_append, List.flatMap_append, hlast, hgroups, shownBits, hcount,
    channelBits_rest]

/-- Consecutive runs make up the front of a row. -/
theorem flatMap_take_drop (width count : Nat) (bits : List Bool) :
    ((List.range count).flatMap fun g => (bits.drop (width * g)).take width)
      = bits.take (width * count) := by
  induction count with
  | zero => simp
  | succ count ih =>
    rw [List.range_succ, List.flatMap_append, ih, List.flatMap_singleton, Nat.mul_succ,
      List.take_add]

/-- **What is shown of lines that are a whole number of bytes wide is everything.** -/
theorem shownBits_of_dvd (hwidth : 8 ∣ width) (bits : List Bool) :
    shownBits width bits = fillByte bits := by
  obtain ⟨count, rfl⟩ := hwidth
  have hfull : 8 * (8 * count / 8) = 8 * count := by omega
  have hwhole : 8 * count * (bits.length / (8 * count))
      = 8 * (count * (bits.length / (8 * count))) := Nat.mul_assoc ..
  have hle := Nat.mul_div_le bits.length (8 * count)
  rw [shownBits, hfull, flatMap_take_drop, fillByte, fillByte, ← List.append_assoc,
    List.take_append_drop, List.length_drop]
  congr 2
  rw [hwhole] at hle ⊢
  omega

/-- Less than a byte is filled up. -/
theorem fillByte_spec (bits : List Bool) :
    ∃ count < 8, fillByte bits = bits ++ List.replicate count false :=
  ⟨8 * ((bits.length + 7) / 8) - bits.length, by omega, rfl⟩

/-! ### Captures -/

/-- Packets that **split** a capture: blocks that cut it at sample boundaries, with triggers
anywhere between them. -/
def Splits (unitSize : Nat) (capture : List UInt8) (packets : List Packet) : Prop :=
  ∃ blocks : List (List UInt8), blocks.flatten = capture ∧ AtSampleBoundaries unitSize blocks ∧
    packets.filter (· ≠ .trigger) = blocks.map fun data => .block { unitSize, data }

/-- The samples that a packet adds. -/
def packetSamples : Packet → List Sample
  | .block b => if b.unitSize = 0 then [] else b.samples
  | .trigger | .finish => []

theorem samples_foldl_add (packets : List Packet) (r : Recording) :
    (packets.foldl Recording.add r).samples = r.samples ++ packets.flatMap packetSamples := by
  induction packets generalizing r with
  | nil => simp
  | cons packet packets ih =>
    have hadd : (r.add packet).samples = r.samples ++ packetSamples packet := by
      cases packet with
      | trigger => exact (List.append_nil _).symm
      | finish => exact (List.append_nil _).symm
      | block b =>
        rw [Recording.add, packetSamples]
        split
        · exact (List.append_nil _).symm
        · rfl
    rw [List.foldl_cons, ih, hadd, List.append_assoc, List.flatMap_cons]

/-- Triggers add no samples. -/
theorem flatMap_packetSamples_filter (packets : List Packet) :
    (packets.filter (· ≠ .trigger)).flatMap packetSamples = packets.flatMap packetSamples := by
  induction packets with
  | nil => rfl
  | cons packet packets ih =>
    by_cases htrigger : packet = .trigger
    · rw [htrigger, List.filter_cons_of_neg (by simp), ih]
      rfl
    · rw [List.filter_cons_of_pos (by simpa using htrigger), List.flatMap_cons, ih,
        List.flatMap_cons]

variable {unitSize : Nat} {capture : List UInt8} {packets : List Packet}

/-- The recording of a capture that was split has the samples of the capture. -/
theorem Splits.samples_eq (h : Splits unitSize capture packets) (hunit : 0 < unitSize) :
    (Recording.ofPackets (packets ++ [.finish])).samples = (Block.mk unitSize capture).samples := by
  obtain ⟨blocks, rfl, hcut, hblocks⟩ := h
  have hne : unitSize ≠ 0 := Nat.ne_of_gt hunit
  have hblock : ∀ data,
      packetSamples (.block { unitSize, data }) = (Block.mk unitSize data).samples :=
    fun data => if_neg hne
  have hfinish : (Recording.ofPackets (packets ++ [.finish])).samples
      = (packets.foldl Recording.add {}).samples := by
    rw [Recording.ofPackets_concat]
    rfl
  rw [hfinish, samples_foldl_add, ← flatMap_packetSamples_filter, hblocks, List.flatMap_map,
    samples_flatten hunit hcut]
  simp only [hblock, List.nil_append]

/-- A capture that was split does not end the stream. -/
theorem Splits.open_ (h : Splits unitSize capture packets) :
    ∀ packet ∈ packets, packet ≠ .finish := by
  obtain ⟨blocks, -, -, hblocks⟩ := h
  rintro packet hpacket rfl
  have hmem : Packet.finish ∈ packets.filter (· ≠ .trigger) :=
    List.mem_filter.mpr ⟨hpacket, by decide⟩
  rw [hblocks] at hmem
  obtain ⟨data, -, heq⟩ := List.mem_map.mp hmem
  cases heq

/-- **A capture is encoded and decoded again**: of each channel come back the bits that the report
shows, and all of them if lines are a whole number of bytes wide. -/
theorem decode_report (device : Device) {text : Option String}
    (hwidth : chosenWidth text = .ok width) (hnames : TellApart device.selected)
    (hunit : 0 < unitSize) (hsplit : Splits unitSize capture packets) :
    ∃ e, Encoder.ofDevice device text = .ok e ∧ ∀ channel ∈ device.selected,
      decode (e.report (packets ++ [.finish])) channel.name
          = some (shownBits width (channelBits channel (Block.mk unitSize capture).samples)) ∧
        (8 ∣ width → ∃ count < 8, decode (e.report (packets ++ [.finish])) channel.name
          = some (channelBits channel (Block.mk unitSize capture).samples ++
            List.replicate count false)) := by
  obtain ⟨e, hnew, hfollows⟩ := Encoder.exists_ofDevice device hwidth
  have hopen : ∀ packet ∈ (packets ++ [Packet.finish]).dropLast, packet ≠ .finish := by
    rw [List.dropLast_concat]
    exact hsplit.open_
  have hended : (Recording.ofPackets (packets ++ [.finish])).ended = true := by
    rw [Recording.ofPackets_concat]
    rfl
  refine ⟨e, hnew, fun channel hmem => ?_⟩
  have hdecode : decode (e.report (packets ++ [.finish])) channel.name
      = some (shownBits width (channelBits channel (Block.mk unitSize capture).samples)) := by
    rw [hfollows.report_eq hopen, decode_layout hnames hmem hended, byteBits_shownRows,
      hsplit.samples_eq hunit]
  refine ⟨hdecode, fun hdvd => ?_⟩
  obtain ⟨count, hcount, hfill⟩ :=
    fillByte_spec (channelBits channel (Block.mk unitSize capture).samples)
  exact ⟨count, hcount, by rw [hdecode, shownBits_of_dvd hdvd, hfill]⟩

/-- Two channels at a width that is no whole number of bytes, and a capture in two blocks with
triggers around the first. -/
theorem decode_report_ten :
    let device : Device :=
      { channels := [{ index := 9, name := "HI" }, { index := 0, name := "" }] }
    let capture : List UInt8 := List.replicate 25 170
    let packets : List Packet :=
      [.trigger, .block ⟨2, capture.take 6⟩, .trigger, .block ⟨2, capture.drop 6⟩]
    chosenWidth (some "10") = .ok 10 ∧ TellApart device.selected ∧ 0 < 2 ∧
      Splits 2 capture packets ∧
      ∃ e, Encoder.ofDevice device (some "10") = .ok e ∧ ∀ channel ∈ device.selected,
        decode (e.report (packets ++ [.finish])) channel.name
          = some (shownBits 10 (channelBits channel (Block.mk 2 capture).samples)) := by
  intro device capture packets
  have hwidth : chosenWidth (some "10") = .ok 10 := rfl
  have hnames : TellApart device.selected :=
    ⟨by decide, by decide, by decide, by decide⟩
  have hsplit : Splits 2 capture packets :=
    ⟨[capture.take 6, capture.drop 6], by decide, by decide, by decide⟩
  obtain ⟨e, hnew, hdecode⟩ := decode_report device hwidth hnames (by decide) hsplit
  exact ⟨hwidth, hnames, by decide, hsplit, e, hnew, fun channel hmem => (hdecode channel hmem).1⟩

end CaptureReport.Report
