import CaptureReport.Proofs.Report.Lines
import CaptureReport.Proofs.Report.Reset

/-!
# Packet boundaries

Where a capture is cut into blocks leaves no trace in an encoder, as long as it is cut at sample
boundaries. A block in two pieces does what it does in one: the state afterwards is the same in
every part, down to the bits that earlier groups left in the accumulators, and the texts of the two
answers put together are the text of the one. Bytes behind the last complete sample do nothing.

An answer with an empty text does not occur. A packet **brings out** a text exactly if it is a block
that the header still waits for, or if there is a lane to be shown and the packet completes a group
or ends the stream within one.

## Main results

* `Encoder.step_append`: a block that is cut behind a complete sample.
* `Encoder.after_flatten`: a capture that is cut at sample boundaries, however often.
* `Encoder.Holds.pushAll_eq_empty_iff`: samples bring out nothing exactly if they complete no group
  that can be shown.
* `boundaries_invisible`: all of this for the encoders of a device.
-/

namespace CaptureReport

/-- The complete samples of a block, as a block. -/
def Block.whole (b : Block) : Block :=
  { b with data := b.data.take (b.unitSize * b.sampleCount) }

/-- Bytes that are left over at the end of a block belong to no sample. -/
theorem Block.samples_whole (b : Block) : b.whole.samples = b.samples := by
  obtain ⟨unitSize, data⟩ := b
  rcases Nat.eq_zero_or_pos unitSize with rfl | hunit
  · simp [whole, samples, sampleCount, cutSamples]
  · have hle : unitSize * (data.length / unitSize) ≤ data.length := Nat.mul_div_le _ _
    have hlen : (data.take (unitSize * (data.length / unitSize))).length
        = unitSize * (data.length / unitSize) := by
      rw [List.length_take, Nat.min_eq_left hle]
    have hrest : (data.drop (unitSize * (data.length / unitSize))).length < unitSize := by
      rw [List.length_drop, ← Nat.mod_eq_sub_mul_div]
      exact Nat.mod_lt _ hunit
    have hsplit := samples_append hunit (Dvd.intro _ hlen.symm)
      (data.drop (unitSize * (data.length / unitSize)))
    rw [List.take_append_drop, samples_of_length_lt hrest, List.append_nil] at hsplit
    exact hsplit.symm

namespace Report

/-- The texts of two answers put together, where an answer without a text counts for nothing. -/
def joined (first second : Option String) : Option String :=
  Encoder.someText (first.getD "" ++ second.getD "")

namespace Encoder

variable {e : Encoder} {channels : List Channel} {held : List Sample}

/-! ### Samples in two parts -/

theorem pushAll_append (e : Encoder) (samples more : List Sample) (text : String) :
    e.pushAll (samples ++ more) text
      = (e.pushAll samples text).1.pushAll more (e.pushAll samples text).2 :=
  List.foldl_append

/-- A text that is there already only stands in front of what samples bring out. -/
theorem pushAll_eq (e : Encoder) (samples : List Sample) (text : String) :
    e.pushAll samples text = ((e.pushAll samples "").1, text ++ (e.pushAll samples "").2) := by
  induction samples generalizing e text with
  | nil => exact Prod.ext rfl String.append_empty.symm
  | cons sample samples ih =>
    rw [pushAll_cons, pushAll_cons, ih, ih _ ("" ++ _), String.empty_append, String.append_assoc]

@[simp] theorem getD_someText (text : String) : (someText text).getD "" = text := by
  by_cases h : text = ""
  · subst h
    rfl
  · have hne : text.isEmpty = false := by simpa using h
    rw [someText, hne]
    rfl

/-- Once the header has come out, a block brings out what its samples do. -/
theorem step_block_of_none (hheader : e.header = none) {b : Block} (hunit : b.unitSize ≠ 0) :
    e.step (.block b)
      = (.ok (someText (e.pushAll b.samples "").2), (e.pushAll b.samples "").1) := by
  have hsame : { e with header := none } = e := by rw [← hheader]
  rw [step_block e hunit, hsame, hheader, Option.getD_none]

/-- **A block that is cut behind a complete sample** does in two pieces what it does in one. -/
theorem step_append (e : Encoder) {unitSize : Nat} (hunit : unitSize ≠ 0) {front : List UInt8}
    (hfront : unitSize ∣ front.length) (back : List UInt8) :
    ∃ first second, (e.step (.block ⟨unitSize, front⟩)).1 = .ok first ∧
      ((e.step (.block ⟨unitSize, front⟩)).2.step (.block ⟨unitSize, back⟩)).1 = .ok second ∧
      e.step (.block ⟨unitSize, front ++ back⟩)
        = (.ok (joined first second),
          ((e.step (.block ⟨unitSize, front⟩)).2.step (.block ⟨unitSize, back⟩)).2) := by
  have hfirst := step_block e (b := ⟨unitSize, front⟩) hunit
  -- The header has come out with the front piece, so that none is due with the back piece.
  have hheader : (e.step (.block ⟨unitSize, front⟩)).2.header = none := by
    rw [hfirst, header_pushAll]
  have hsecond := step_block_of_none hheader (b := ⟨unitSize, back⟩) hunit
  refine ⟨_, _, congrArg Prod.fst hfirst, congrArg Prod.fst hsecond, ?_⟩
  rw [step_block e (b := ⟨unitSize, front ++ back⟩) hunit,
    samples_append (Nat.pos_of_ne_zero hunit) hfront back, pushAll_append, pushAll_eq, joined,
    getD_someText, getD_someText, hsecond, hfirst]

/-- Bytes behind the last complete sample do nothing. -/
theorem step_whole (e : Encoder) (b : Block) : e.step (.block b.whole) = e.step (.block b) := by
  by_cases hunit : b.unitSize = 0
  · rw [step_block_of_eq_zero e hunit, step_block_of_eq_zero e (b := b.whole) hunit]
  · rw [step_block e hunit, step_block e (b := b.whole) hunit, b.samples_whole]

/-- **A capture that is cut at sample boundaries**, however often, does what it does in one
block. -/
theorem after_flatten {unitSize : Nat} (hunit : unitSize ≠ 0) {blocks : List (List UInt8)}
    (hne : blocks ≠ []) (hcut : AtSampleBoundaries unitSize blocks) (e : Encoder) :
    e.after (blocks.map fun data => .block ⟨unitSize, data⟩)
        = (e.step (.block ⟨unitSize, blocks.flatten⟩)).2 ∧
      e.report (blocks.map fun data => .block ⟨unitSize, data⟩)
        = textOf (e.step (.block ⟨unitSize, blocks.flatten⟩)).1 := by
  induction blocks generalizing e with
  | nil => exact absurd rfl hne
  | cons data blocks ih =>
    cases blocks with
    | nil =>
      rw [List.flatten_singleton, List.map_singleton, report_cons, report_nil, String.append_empty]
      exact ⟨rfl, rfl⟩
    | cons next blocks =>
      have hdata : unitSize ∣ data.length := hcut data (by simp)
      have hrest : AtSampleBoundaries unitSize (next :: blocks) :=
        fun d hd => hcut d (by rw [List.dropLast_cons_cons]; exact List.mem_cons_of_mem _ hd)
      obtain ⟨first, second, hfirst, hsecond, hwhole⟩ :=
        e.step_append hunit hdata (next :: blocks).flatten
      obtain ⟨hafter, hreport⟩ :=
        ih (List.cons_ne_nil _ _) hrest (e.step (.block ⟨unitSize, data⟩)).2
      rw [List.map_cons, after_cons, report_cons, List.flatten_cons, hafter, hreport, hwhole,
        hfirst, hsecond]
      refine ⟨rfl, ?_⟩
      rw [joined, textOf_someText]
      cases first <;> cases second <;> rfl

/-! ### Texts that are not empty -/

theorem someText_ne_empty (text : String) : someText text ≠ some "" := by
  rw [someText]
  split
  · simp
  · rename_i hne
    rintro ⟨⟩
    exact hne rfl

theorem exists_someText_iff {text : String} :
    (∃ shown, someText text = some shown) ↔ text ≠ "" := by
  rw [someText, ne_eq, ← String.isEmpty_iff]
  split <;> simp_all

end Encoder

theorem unlines_eq_empty_iff {lines : List String} : unlines lines = "" ↔ lines = [] := by
  cases lines with
  | nil => simp
  | cons line lines =>
    rw [unlines_cons]
    simp

theorem groupText_eq_empty_iff {channels : List Channel} {samples : List Sample}
    {mark : Option Nat} : groupText channels samples mark = "" ↔ channels = [] := by
  rw [groupText_eq_unlines, unlines_eq_empty_iff, fullGroupLines]
  cases channels <;> simp

theorem header_ne_empty (device : Device) : header device ≠ "" := by
  rw [header_eq_unlines, ne_eq, unlines_eq_empty_iff, headerLines]
  exact List.cons_ne_nil _ _

/-! ### Packets that bring out a text -/

namespace Encoder

variable {e : Encoder} {channels : List Channel} {held : List Sample} {device : Device}

/-- A packet **brings out** a text from an encoder: a block that the header still waits for or that
completes a group, and the end of a stream within a group; a group only if there is a channel to
show. -/
def BringsOut (device : Device) (e : Encoder) : Packet → Prop
  | .trigger => False
  | .block b => b.unitSize ≠ 0 ∧
    (e.header ≠ none ∨ device.selected ≠ [] ∧ e.width ≤ e.filled + b.sampleCount)
  | .finish => device.selected ≠ [] ∧ e.filled ≠ 0

/-- **Samples bring out nothing** exactly if they complete no group, or there is no lane to show
it. -/
theorem Holds.pushAll_eq_empty_iff (h : e.Holds channels held) (samples : List Sample)
    (text : String) :
    (e.pushAll samples text).2 = "" ↔
      text = "" ∧ (channels = [] ∨ held.length + samples.length < e.width) := by
  induction samples generalizing e held text with
  | nil =>
    have hroom := h.room
    exact ⟨fun hnone => ⟨hnone, .inr hroom⟩, And.left⟩
  | cons sample samples ih =>
    rw [pushAll_cons]
    by_cases hfull : held.length + 1 = e.width
    · obtain ⟨hnext, -, htext⟩ := h.push_of_full hfull sample
      rw [ih hnext, htext, String.append_eq_empty_iff, groupText_eq_empty_iff, width_push,
        List.length_nil, List.length_cons]
      constructor
      · rintro ⟨⟨hnone, hchannels⟩, -⟩
        exact ⟨hnone, .inl hchannels⟩
      · rintro ⟨hnone, hchannels | hroom⟩
        · exact ⟨⟨hnone, hchannels⟩, .inl hchannels⟩
        · omega
    · have hroom := h.room
      obtain ⟨hnext, -, htext⟩ := h.push_of_room (by omega) sample
      rw [ih hnext, htext, String.append_empty, width_push, List.length_append,
        List.length_singleton, List.length_cons, Nat.add_assoc, Nat.add_comm 1]

/-- The header stays until it comes out. -/
theorem header_after_eq (e : Encoder) (packets : List Packet) :
    (e.after packets).header = e.header ∨ (e.after packets).header = none := by
  induction packets generalizing e with
  | nil => exact .inl rfl
  | cons packet packets ih =>
    rw [after_cons]
    have hstep : (e.step packet).2.header = e.header ∨ (e.step packet).2.header = none := by
      cases packet with
      | trigger => exact .inl rfl
      | finish => exact .inl (header_finish e)
      | block b =>
        by_cases hunit : b.unitSize = 0
        · rw [step_block_of_eq_zero e hunit]
          exact .inl rfl
        · rw [step_block e hunit]
          exact .inr (header_pushAll ..)
    rcases ih (e.step packet).2 with hkept | hnone
    · rw [hkept]
      exact hstep
    · exact .inr hnone

/-- **A packet is answered with a text exactly if it brings one out.** -/
theorem Holds.exists_text_iff (h : e.Holds device.selected held)
    (hheader : e.header = some (Report.header device) ∨ e.header = none) (packet : Packet) :
    (∃ shown, (e.step packet).1 = .ok (some shown)) ↔ e.BringsOut device packet := by
  cases packet with
  | trigger => simp [step_trigger, BringsOut]
  | finish =>
    obtain ⟨-, htext⟩ := h.finish
    simp only [step_finish, Except.ok.injEq, exists_someText_iff, htext, BringsOut, h.filled]
    cases held with
    | nil => simp
    | cons sample held => simp [unlines_eq_empty_iff]
  | block b =>
    by_cases hunit : b.unitSize = 0
    · simp [step_block_of_eq_zero e hunit, BringsOut, hunit]
    · have hnone := h.begun.pushAll_eq_empty_iff b.samples (e.header.getD "")
      rw [Block.length_samples, ← h.filled] at hnone
      simp only [step_block e hunit, Except.ok.injEq, exists_someText_iff, ne_eq, hnone, BringsOut]
      rcases hheader with hdue | hout
      · simp [hdue, hunit, header_ne_empty]
      · simp [hout, hunit]

end Encoder

/-- **Packet boundaries are invisible.** Whatever packets an encoder has been given: a block that is
cut behind a complete sample does in two pieces what it does in one, and so it does in any number of
pieces that are cut there; bytes behind the last complete sample do nothing. No answer has an empty
text, and a packet is answered with a text exactly if it brings one out. -/
theorem boundaries_invisible (device : Device) {text : Option String} {width : Nat}
    (hwidth : chosenWidth text = .ok width) (packets : List Packet) :
    ∃ e, Encoder.ofDevice device text = .ok e ∧
      let state := e.after packets
      (∀ (unitSize : Nat) (front back : List UInt8), unitSize ≠ 0 → unitSize ∣ front.length →
        let between := (state.step (.block ⟨unitSize, front⟩)).2
        ∃ first second, (state.step (.block ⟨unitSize, front⟩)).1 = .ok first ∧
          (between.step (.block ⟨unitSize, back⟩)).1 = .ok second ∧
          state.step (.block ⟨unitSize, front ++ back⟩)
            = (.ok (joined first second), (between.step (.block ⟨unitSize, back⟩)).2)) ∧
      (∀ (unitSize : Nat) (pieces : List (List UInt8)), unitSize ≠ 0 → pieces ≠ [] →
        AtSampleBoundaries unitSize pieces →
        let blocks := pieces.map fun data => Packet.block ⟨unitSize, data⟩
        let whole := state.step (.block ⟨unitSize, pieces.flatten⟩)
        state.after blocks = whole.2 ∧ state.report blocks = textOf whole.1) ∧
      (∀ b : Block, state.step (.block b.whole) = state.step (.block b)) ∧
      ∀ packet, (state.step packet).1 ≠ .ok (some "") ∧
        ((∃ shown, (state.step packet).1 = .ok (some shown)) ↔ state.BringsOut device packet) := by
  obtain ⟨e, hnew, hfollows⟩ := Encoder.exists_ofDevice device hwidth
  obtain ⟨held, hholds, -⟩ := (hfollows.holds.alike.after packets).holds
  have hheader := e.header_after_eq packets
  rw [hfollows.header] at hheader
  have htext := hholds.exists_text_iff hheader
  refine ⟨e, hnew, ?_, ?_, Encoder.step_whole _, fun packet => ?_⟩
  · exact fun unitSize front back hunit hfront => Encoder.step_append _ hunit hfront back
  · exact fun unitSize pieces hunit hne hcut => Encoder.after_flatten hunit hne hcut _
  · refine ⟨fun hempty => ?_, htext packet⟩
    cases packet with
    | trigger => cases hempty
    | finish => exact Encoder.someText_ne_empty _ (Except.ok.inj hempty)
    | block b =>
      by_cases hunit : b.unitSize = 0
      · rw [Encoder.step_block_of_eq_zero _ hunit] at hempty
        cases hempty
      · rw [Encoder.step_block _ hunit] at hempty
        exact Encoder.someText_ne_empty _ (Except.ok.inj hempty)

/-- A cut within a byte, behind a group that left bits in the accumulators and a stream that was cut
short with its mark outstanding; the back piece completes the group and ends within a sample. It is
cut once more. -/
theorem boundaries_invisible_ten :
    let device : Device :=
      { channels := [{ index := 9, name := "HI" }, { index := 0, name := "LO" }] }
    let packets : List Packet :=
      [.block ⟨2, List.replicate 26 255⟩, .trigger, .finish, .block ⟨1, [1, 0]⟩]
    let front : List UInt8 := List.replicate 10 255
    let back : List UInt8 := List.replicate 9 1
    let pieces := [front, back.take 4, back.drop 4]
    chosenWidth (some "10") = .ok 10 ∧ 2 ≠ 0 ∧ 2 ∣ front.length ∧ pieces ≠ [] ∧
      AtSampleBoundaries 2 pieces ∧
      ∃ e, Encoder.ofDevice device (some "10") = .ok e ∧
        let state := e.after packets
        let between := (state.step (.block ⟨2, front⟩)).2
        (∃ first second, (state.step (.block ⟨2, front⟩)).1 = .ok first ∧
          (between.step (.block ⟨2, back⟩)).1 = .ok second ∧
          state.step (.block ⟨2, front ++ back⟩)
            = (.ok (joined first second), (between.step (.block ⟨2, back⟩)).2)) ∧
        state.report (pieces.map fun data => Packet.block ⟨2, data⟩)
          = textOf (state.step (.block ⟨2, front ++ back⟩)).1 ∧
        between.step (.block (Block.mk 2 back).whole) = between.step (.block ⟨2, back⟩) ∧
        (between.step (.block ⟨2, back⟩)).1 ≠ .ok (some "") ∧
        between.BringsOut device (.block ⟨2, back⟩) ∧
        ∃ shown, (between.step (.block ⟨2, back⟩)).1 = .ok (some shown) := by
  intro device packets front back pieces
  have hwidth : chosenWidth (some "10") = .ok 10 := rfl
  have hunit : 2 ≠ 0 := by decide
  have hfront : 2 ∣ front.length := by decide
  have hpieces : pieces ≠ [] := List.cons_ne_nil _ _
  have hboundaries : AtSampleBoundaries 2 pieces := by decide
  obtain ⟨e, hnew, hcut, hcuts, -, -⟩ := boundaries_invisible device hwidth packets
  -- The back piece is met in the state behind the front piece.
  obtain ⟨e', hnew', -, -, hwhole, hanswers⟩ :=
    boundaries_invisible device hwidth (packets ++ [.block ⟨2, front⟩])
  obtain rfl : e = e' := Except.ok.inj (hnew.symm.trans hnew')
  rw [Encoder.after_concat] at hwhole hanswers
  obtain ⟨hne, hiff⟩ := hanswers (.block ⟨2, back⟩)
  have hbrings : ((e.after packets).step (.block ⟨2, front⟩)).2.BringsOut device
      (.block ⟨2, back⟩) := by
    cases hnew
    exact ⟨by decide, .inr ⟨by decide, by decide⟩⟩
  exact ⟨hwidth, hunit, hfront, hpieces, hboundaries, e, hnew, hcut 2 front back hunit hfront,
    (hcuts 2 pieces hunit hpieces hboundaries).2, hwhole _, hne, hbrings, hiff.mpr hbrings⟩

end Report

end CaptureReport
