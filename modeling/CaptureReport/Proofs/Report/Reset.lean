import CaptureReport.Proofs.Report.Streaming
import CaptureReport.Proofs.Samples

/-!
# One stream after another

An encoder takes packets after the end of a stream as well, and a second stream begins where the
first one ended. The end brings out what is held and clears the lanes and the count, so that of the
first stream nothing but its **mark** can reach the second: a trigger in a group that the first
stream left incomplete is still outstanding, and is shown below the first complete group of the
second stream unless a later trigger takes its place.

Two encoders are **alike** if no packet tells them apart. This leaves out what only the encoder
itself sees: bits that earlier groups left in the accumulators, how many samples and groups there
have been, and, where there is no lane to show it below, the mark.

## Main results

* `Encoder.Alike.step`, `Encoder.Alike.answers_eq`: encoders that are alike give the same answers,
  and stay alike.
* `answers_after_finish`: what a stream leaves behind is its mark, and it shows unless there is no
  lane.
-/

namespace CaptureReport.Report

namespace Encoder

/-- Two encoders for the same channels are **alike** if they hold the same samples, and agree in the
width, in the header that is still to come out, and in the mark if it can be shown at all. -/
structure Alike (channels : List Channel) (e e' : Encoder) : Prop where
  width : e.width = e'.width
  mark : channels ≠ [] → e.mark = e'.mark
  header : e.header = e'.header
  holds : ∃ samples, e.Holds channels samples ∧ e'.Holds channels samples

/-- The encoder with another mark. -/
def withMark (e : Encoder) (mark : Option Nat) : Encoder :=
  { e with mark }

variable {e e' : Encoder} {channels : List Channel} {samples : List Sample}

/-! ### What packets leave alone -/

@[simp] theorem width_pushAll (e : Encoder) (samples : List Sample) (text : String) :
    (e.pushAll samples text).1.width = e.width := by
  induction samples generalizing e text with
  | nil => rfl
  | cons sample samples ih => rw [pushAll_cons, ih, width_push]

@[simp] theorem header_pushAll (e : Encoder) (samples : List Sample) (text : String) :
    (e.pushAll samples text).1.header = e.header := by
  induction samples generalizing e text with
  | nil => rfl
  | cons sample samples ih => rw [pushAll_cons, ih, header_push]

@[simp] theorem width_finish (e : Encoder) : e.finish.1.width = e.width := by
  rw [finish]
  split <;> rfl

@[simp] theorem header_finish (e : Encoder) : e.finish.1.header = e.header := by
  rw [finish]
  split <;> rfl

/-- The end of a stream does not use up the mark. -/
@[simp] theorem mark_finish (e : Encoder) : e.finish.1.mark = e.mark := by
  rw [finish]
  split <;> rfl

@[simp] theorem width_step (e : Encoder) (packet : Packet) :
    (e.step packet).2.width = e.width := by
  cases packet with
  | trigger => rfl
  | finish => exact width_finish e
  | block b =>
    by_cases hunit : b.unitSize = 0
    · rw [step_block_of_eq_zero e hunit]
    · rw [step_block e hunit, width_pushAll]

/-- A header that has come out does not come back. -/
theorem header_step (h : e.header = none) (packet : Packet) : (e.step packet).2.header = none := by
  cases packet with
  | trigger => exact h
  | finish => exact (header_finish e).trans h
  | block b =>
    by_cases hunit : b.unitSize = 0
    · rw [step_block_of_eq_zero e hunit]
      exact h
    · rw [step_block e hunit, header_pushAll]

theorem after_cons (e : Encoder) (packet : Packet) (packets : List Packet) :
    e.after (packet :: packets) = (e.step packet).2.after packets := rfl

theorem after_concat (e : Encoder) (packets : List Packet) (packet : Packet) :
    e.after (packets ++ [packet]) = ((e.after packets).step packet).2 :=
  after_append e packets [packet]

@[simp] theorem width_after (e : Encoder) (packets : List Packet) :
    (e.after packets).width = e.width := by
  induction packets generalizing e with
  | nil => rfl
  | cons packet packets ih => rw [after_cons, ih, width_step]

theorem header_after (h : e.header = none) (packets : List Packet) :
    (e.after packets).header = none := by
  induction packets generalizing e with
  | nil => exact h
  | cons packet packets ih => exact ih (header_step h packet)

/-- The header comes out with the first block whose samples are at least one byte wide. -/
theorem header_after_of_mem {packets : List Packet} {b : Block} (hblock : .block b ∈ packets)
    (hunit : b.unitSize ≠ 0) (e : Encoder) : (e.after packets).header = none := by
  induction packets generalizing e with
  | nil => cases hblock
  | cons packet packets ih =>
    rw [after_cons]
    rcases List.mem_cons.mp hblock with rfl | hrest
    · refine header_after ?_ packets
      rw [step_block e hunit, header_pushAll]
    · exact ih hrest _

/-! ### Encoders that cannot be told apart -/

theorem Holds.alike (h : e.Holds channels samples) : Alike channels e e :=
  ⟨rfl, fun _ => rfl, rfl, samples, h, h⟩

/-- The text of a group is the same for marks that agree where they can be shown. -/
theorem groupText_congr {mark mark' : Option Nat} (h : channels ≠ [] → mark = mark')
    (samples : List Sample) : groupText channels samples mark = groupText channels samples mark' := by
  by_cases hnil : channels = []
  · rw [hnil]
    rfl
  · rw [h hnil]

/-- One sample. -/
theorem Alike.push (h : Alike channels e e') (sample : Sample) :
    (e.push sample).2 = (e'.push sample).2 ∧ Alike channels (e.push sample).1 (e'.push sample).1 := by
  obtain ⟨samples, hholds, hholds'⟩ := h.holds
  have hwidth : (e.push sample).1.width = (e'.push sample).1.width := by
    rw [width_push, width_push, h.width]
  have hheader : (e.push sample).1.header = (e'.push sample).1.header := by
    rw [header_push, header_push, h.header]
  by_cases hfull : samples.length + 1 = e.width
  · obtain ⟨hnext, hmark, htext⟩ := hholds.push_of_full hfull sample
    obtain ⟨hnext', hmark', htext'⟩ := hholds'.push_of_full (hfull.trans h.width) sample
    refine ⟨?_, hwidth, fun hne => ?_, hheader, [], hnext, hnext'⟩
    · rw [htext, htext', groupText_congr h.mark]
    · rw [hmark, hmark', h.mark hne]
  · have hroom : samples.length + 1 < e.width := by
      have hlt := hholds.room
      omega
    obtain ⟨hnext, hmark, htext⟩ := hholds.push_of_room hroom sample
    obtain ⟨hnext', hmark', htext'⟩ := hholds'.push_of_room (h.width ▸ hroom) sample
    refine ⟨htext.trans htext'.symm, hwidth, fun hne => ?_, hheader, _, hnext, hnext'⟩
    rw [hmark, hmark', h.mark hne]

/-- The samples of a block, one after another. -/
theorem Alike.pushAll (h : Alike channels e e') (samples : List Sample) (text : String) :
    (e.pushAll samples text).2 = (e'.pushAll samples text).2 ∧
      Alike channels (e.pushAll samples text).1 (e'.pushAll samples text).1 := by
  induction samples generalizing e e' text with
  | nil => exact ⟨rfl, h⟩
  | cons sample samples ih =>
    obtain ⟨htext, hnext⟩ := h.push sample
    rw [pushAll_cons, pushAll_cons, htext]
    exact ih hnext _

/-- **One packet does not tell encoders apart that are alike**, and they stay alike. -/
theorem Alike.step (h : Alike channels e e') (packet : Packet) :
    (e.step packet).1 = (e'.step packet).1 ∧ Alike channels (e.step packet).2 (e'.step packet).2 := by
  obtain ⟨samples, hholds, hholds'⟩ := h.holds
  cases packet with
  | trigger =>
    refine ⟨rfl, h.width, fun _ => ?_, h.header, samples,
      ⟨hholds.filled, hholds.room, hholds.lanes⟩, ⟨hholds'.filled, hholds'.room, hholds'.lanes⟩⟩
    rw [step_trigger, step_trigger, hholds.filled, hholds'.filled]
  | finish =>
    obtain ⟨hnext, htext⟩ := hholds.finish
    obtain ⟨hnext', htext'⟩ := hholds'.finish
    rw [step_finish, step_finish]
    refine ⟨?_, ?_, fun hne => ?_, ?_, [], hnext, hnext'⟩
    · rw [htext, htext']
    · rw [width_finish, width_finish, h.width]
    · rw [mark_finish, mark_finish, h.mark hne]
    · rw [header_finish, header_finish, h.header]
  | block b =>
    by_cases hunit : b.unitSize = 0
    · rw [step_block_of_eq_zero e hunit, step_block_of_eq_zero e' hunit]
      exact ⟨rfl, h⟩
    · have hbegun : Alike channels { e with header := none } { e' with header := none } :=
        ⟨h.width, h.mark, rfl, samples, ⟨hholds.filled, hholds.room, hholds.lanes⟩,
          ⟨hholds'.filled, hholds'.room, hholds'.lanes⟩⟩
      obtain ⟨htext, hnext⟩ := hbegun.pushAll b.samples (e.header.getD "")
      rw [step_block e hunit, step_block e' hunit, ← h.header]
      refine ⟨?_, hnext⟩
      rw [htext]

theorem Alike.after (h : Alike channels e e') (packets : List Packet) :
    Alike channels (e.after packets) (e'.after packets) := by
  induction packets generalizing e e' with
  | nil => exact h
  | cons packet packets ih => exact ih (h.step packet).2

/-- **Encoders that are alike give the same answers**, to however many packets. -/
theorem Alike.answers_eq (h : Alike channels e e') (packets : List Packet) :
    e.answers packets = e'.answers packets := by
  induction packets generalizing e e' with
  | nil => rfl
  | cons packet packets ih =>
    obtain ⟨hanswer, hnext⟩ := h.step packet
    rw [answers, answers, hanswer, ih hnext]

/-! ### What a stream leaves behind -/

/-- Samples that fill up the group bring out its text. -/
theorem Holds.pushAll_of_full {held : List Sample} (h : e.Holds channels held)
    (hne : samples ≠ []) (hfull : held.length + samples.length = e.width) (text : String) :
    (e.pushAll samples text).2 = text ++ groupText channels (held ++ samples) e.mark := by
  induction samples generalizing e held text with
  | nil => exact absurd rfl hne
  | cons sample samples ih =>
    rw [List.length_cons] at hfull
    rw [pushAll_cons]
    cases samples with
    | nil =>
      obtain ⟨-, -, htext⟩ := h.push_of_full hfull sample
      rw [htext]
      rfl
    | cons next samples =>
      rw [List.length_cons] at hfull
      obtain ⟨hholds, hmark, htext⟩ := h.push_of_room (by omega) sample
      have hrest : (held ++ [sample]).length + (next :: samples).length
          = (e.push sample).1.width := by
        rw [width_push, List.length_append, List.length_singleton, List.length_cons]
        omega
      rw [ih hholds (List.cons_ne_nil _ _) hrest, hmark, htext, String.append_empty,
        List.append_assoc, List.singleton_append]

/-- A group with a mark below it is longer than the same group without one. -/
theorem groupText_some_ne (hne : channels ≠ []) (samples : List Sample) (mark : Nat) :
    groupText channels samples (some mark) ≠ groupText channels samples none := by
  intro heq
  have hlines : channels.isEmpty = false := by simpa using hne
  rw [groupText, groupText, hlines] at heq
  have hlength := congrArg String.length heq
  simp [markLine] at hlength

/-- A block that is a complete group is answered with the text of the group. -/
theorem Holds.report_full_block (h : e.Holds channels []) (hheader : e.header = none) {b : Block}
    (hunit : b.unitSize ≠ 0) (hfull : b.sampleCount = e.width) :
    e.report [.block b] = groupText channels b.samples e.mark := by
  have hne : b.samples ≠ [] := by
    rw [← List.length_pos_iff, Block.length_samples, hfull]
    exact e.width_pos
  have hcount : ([] : List Sample).length + b.samples.length = e.width := by
    rw [Block.length_samples, hfull]
    exact Nat.zero_add _
  rw [report_cons, report_nil, String.append_empty, step_block e hunit, textOf_someText,
    h.begun.pushAll_of_full hne hcount, hheader]
  exact String.empty_append

/-- Whatever mark is set, a block that is a complete group shows it. -/
theorem Holds.report_withMark (h : e.Holds channels []) (mark : Option Nat) {b : Block}
    (hunit : b.unitSize ≠ 0) (hfull : b.sampleCount = e.width) :
    ({ e with header := none }.withMark mark).report [.block b]
      = groupText channels b.samples mark := by
  have hholds : ({ e with header := none }.withMark mark).Holds channels [] :=
    ⟨h.filled, h.room, h.lanes⟩
  exact hholds.report_full_block rfl hunit hfull

/-- An empty block does nothing but bring out the header. -/
theorem after_empty_block (e : Encoder) {unitSize : Nat} (hunit : unitSize ≠ 0) :
    e.after [.block ⟨unitSize, []⟩] = { e with header := none } := by
  have hnil : (Block.mk unitSize []).samples = [] :=
    samples_of_length_lt (Nat.pos_of_ne_zero hunit)
  rw [after_cons, step_block e hunit, hnil]
  rfl

/-- Behind the end of a stream with data in it, an encoder is like the one that it was before the
stream, but for the header and the mark. -/
theorem Holds.alike_after_finish (h : e.Holds channels []) {packets : List Packet} {b : Block}
    (hblock : .block b ∈ packets) (hunit : b.unitSize ≠ 0) {mark : Option Nat}
    (hmark : channels ≠ [] → (e.after packets).mark = mark) :
    Alike channels (e.after (packets ++ [.finish])) ({ e with header := none }.withMark mark) := by
  obtain ⟨samples, hholds, -⟩ := (h.alike.after packets).holds
  obtain ⟨hnext, -⟩ := hholds.finish
  rw [after_concat, step_finish]
  refine ⟨?_, fun hne => ?_, ?_, [], hnext, h.filled, h.room, h.lanes⟩
  · rw [width_finish, width_after]
    rfl
  · rw [mark_finish, hmark hne]
    rfl
  · rw [header_finish, header_after_of_mem hblock hunit]
    rfl

end Encoder

/-- **What a stream leaves behind is its mark.** An encoder that has been given a stream with data
in it, and its end, answers like one that has only been given an empty block and then had the mark
of the stream set. Nothing at all is left behind exactly if no mark was outstanding, or there is no
lane to show it below. -/
theorem answers_after_finish (device : Device) {text : Option String} {width : Nat}
    (hwidth : chosenWidth text = .ok width) {packets : List Packet} {b : Block}
    (hblock : .block b ∈ packets) (hunit : b.unitSize ≠ 0) {unitSize : Nat}
    (hempty : unitSize ≠ 0) :
    ∃ e, Encoder.ofDevice device text = .ok e ∧
      (e.after (packets ++ [.finish])).mark = (e.after packets).mark ∧
      (∀ later, (e.after (packets ++ [.finish])).answers later
        = ((e.after [.block ⟨unitSize, []⟩]).withMark (e.after packets).mark).answers later) ∧
      ((∀ later, (e.after (packets ++ [.finish])).answers later
          = (e.after [.block ⟨unitSize, []⟩]).answers later) ↔
        (e.after packets).mark = none ∨ device.selected = []) := by
  obtain ⟨e, hnew, hfollows⟩ := Encoder.exists_ofDevice device hwidth
  have hholds : e.Holds device.selected [] := by simpa [Recording.rest] using hfollows.holds
  have hfresh : device.selected ≠ [] → e.mark = none := by
    intro hne
    rw [hfollows.mark hne]
    exact Recording.mark_eq_none fun t ht => absurd ht List.not_mem_nil
  have hkept : ∀ later, (e.after (packets ++ [.finish])).answers later
      = ({ e with header := none }.withMark (e.after packets).mark).answers later :=
    (hholds.alike_after_finish hblock hunit fun _ => rfl).answers_eq
  refine ⟨e, hnew, ?_⟩
  rw [e.after_empty_block hempty]
  refine ⟨?_, hkept, fun hsame => ?_, fun hnone => ?_⟩
  · rw [Encoder.after_concat, Encoder.step_finish, Encoder.mark_finish]
  · -- A block that is a complete group shows the mark.
    by_contra hcon
    obtain ⟨hsome, hne⟩ := not_or.mp hcon
    obtain ⟨mark, hmark⟩ := Option.ne_none_iff_exists'.mp hsome
    obtain ⟨b, hone, hfull⟩ : ∃ b : Block, b.unitSize ≠ 0 ∧ b.sampleCount = e.width := by
      refine ⟨⟨1, List.replicate e.width 0⟩, Nat.one_ne_zero, ?_⟩
      rw [Block.sampleCount, List.length_replicate, Nat.div_one]
    have hreport := congrArg textsOf ((hkept [.block b]).symm.trans (hsame _))
    have hshown := (hholds.report_withMark _ hone hfull).symm.trans
      (hreport.trans (hholds.report_withMark e.mark hone hfull))
    rw [hmark, hfresh hne] at hshown
    exact Encoder.groupText_some_ne hne _ _ hshown
  · have hmark : device.selected ≠ [] → (e.after packets).mark = e.mark := by
      intro hne
      rw [hfresh hne]
      exact hnone.resolve_right hne
    exact (hholds.alike_after_finish hblock hunit hmark).answers_eq

/-- Two streams at a width that is no whole number of bytes; the first one ends within a group that
a trigger fell into, behind a complete group that left bits in the accumulators. -/
theorem answers_after_finish_ten :
    let device : Device :=
      { channels := [{ index := 9, name := "HI" }, { index := 0, name := "LO" }] }
    let packets : List Packet := [.block ⟨2, List.replicate 26 255⟩, .trigger, .block ⟨1, [1]⟩]
    chosenWidth (some "10") = .ok 10 ∧ .block ⟨1, [1]⟩ ∈ packets ∧ 1 ≠ 0 ∧ 2 ≠ 0 ∧
      ∃ e, Encoder.ofDevice device (some "10") = .ok e ∧
        (e.after (packets ++ [.finish])).mark = (e.after packets).mark ∧
        (∀ later, (e.after (packets ++ [.finish])).answers later
          = ((e.after [.block ⟨2, []⟩]).withMark (e.after packets).mark).answers later) ∧
        ((∀ later, (e.after (packets ++ [.finish])).answers later
            = (e.after [.block ⟨2, []⟩]).answers later) ↔
          (e.after packets).mark = none ∨ device.selected = []) := by
  intro device packets
  have hwidth : chosenWidth (some "10") = .ok 10 := rfl
  have hblock : .block ⟨1, [1]⟩ ∈ packets := by decide
  have hunit : 1 ≠ 0 := by decide
  have hempty : 2 ≠ 0 := by decide
  exact ⟨hwidth, hblock, hunit, hempty, answers_after_finish device hwidth hblock hunit hempty⟩

/-- A trigger in the last group of a stream, which the end leaves outstanding, is shown below the
first group of the next stream. -/
theorem mark_survives_finish :
    let device : Device := { channels := [{ index := 0, name := "D0" }] }
    let packets : List Packet := [.block ⟨1, [1, 1, 1]⟩, .trigger]
    let later : List Packet := [.block ⟨1, List.replicate 8 1⟩]
    ∃ e, Encoder.ofDevice device (some "8") = .ok e ∧
      (e.after (packets ++ [.finish])).mark = some 3 ∧
      (e.after (packets ++ [.finish])).answers later = [.ok (some "D0:ff \nT:   ^ 3\n")] ∧
      (e.after [.block ⟨1, []⟩]).answers later = [.ok (some "D0:ff \n")] :=
  ⟨_, rfl, by decide, by decide, by decide⟩

end CaptureReport.Report
