import CaptureReport.Proofs.Report.Encoder

/-!
# The encoder brings out the layout

An encoder is given the packets of a stream one at a time and answers each of them with a text, with
nothing, or with a refusal. `Encoder.answers` lists the answers. This module shows that the texts of
the answers so far, put together, are at every point the layout of the recording so far.

The invariant is `Encoder.Follows`: the encoder holds the samples behind the last complete group of
the recording, and its mark is where the latest trigger fell into the group that is being filled.

## Main results

* `Encoder.Follows.step`: one packet keeps the invariant and adds its text to the layout.
* `Encoder.Follows.run`: so do the packets of a stream that goes on.
* `texts_eq_layout`: what has come out is the layout after each packet, whether or not the last
  one is the end of the stream.
-/

namespace CaptureReport.Report

/-! ### Answers -/

/-- The text of an answer; nothing and a refusal have none. -/
def textOf : Except Refusal (Option String) → String
  | .ok (some text) => text
  | .ok none | .error _ => ""

/-- The texts of several answers, put together. -/
def textsOf (answers : List (Except Refusal (Option String))) : String :=
  String.join (answers.map textOf)

namespace Encoder

/-- The answer to a packet, and the encoder after it. A refusal leaves the encoder as it was. -/
def step (e : Encoder) (packet : Packet) : Except Refusal (Option String) × Encoder :=
  match e.receive packet with
  | .ok (text, next) => (.ok text, next)
  | .error refusal => (.error refusal, e)

/-- The encoder after several packets. -/
def after (e : Encoder) (packets : List Packet) : Encoder :=
  packets.foldl (fun e packet => (e.step packet).2) e

/-- The answers to several packets, in order. -/
def answers (e : Encoder) : List Packet → List (Except Refusal (Option String))
  | [] => []
  | packet :: rest => (e.step packet).1 :: answers (e.step packet).2 rest

/-- What several packets bring out together. -/
def report (e : Encoder) (packets : List Packet) : String :=
  textsOf (e.answers packets)

end Encoder

@[simp] theorem textsOf_cons (answer : Except Refusal (Option String))
    (answers : List (Except Refusal (Option String))) :
    textsOf (answer :: answers) = textOf answer ++ textsOf answers := by
  rw [textsOf, List.map_cons, String.join_cons, textsOf]

@[simp] theorem textOf_someText (text : String) : textOf (.ok (Encoder.someText text)) = text := by
  rw [Encoder.someText]
  by_cases h : text.isEmpty
  · rw [if_pos h, String.isEmpty_iff.mp h]
    rfl
  · rw [if_neg h]
    rfl

namespace Encoder

@[simp] theorem report_nil (e : Encoder) : e.report [] = "" := rfl

theorem report_cons (e : Encoder) (packet : Packet) (packets : List Packet) :
    e.report (packet :: packets)
      = textOf (e.step packet).1 ++ (e.step packet).2.report packets := by
  rw [report, answers, textsOf_cons, report]

theorem report_append (e : Encoder) (front back : List Packet) :
    e.report (front ++ back) = e.report front ++ (e.after front).report back := by
  induction front generalizing e with
  | nil => rw [report_nil, String.empty_append]; rfl
  | cons packet front ih =>
    rw [List.cons_append, report_cons, ih, report_cons, String.append_assoc]
    rfl

theorem after_append (e : Encoder) (front back : List Packet) :
    e.after (front ++ back) = (e.after front).after back :=
  List.foldl_append

/-- The first answers are the answers to the first packets. -/
theorem answers_take (e : Encoder) (packets : List Packet) (n : Nat) :
    (e.answers packets).take n = e.answers (packets.take n) := by
  induction n generalizing e packets with
  | zero => rfl
  | succ n ih =>
    cases packets with
    | nil => rfl
    | cons packet rest => rw [answers, List.take_succ_cons, List.take_succ_cons, answers, ih]

theorem step_trigger (e : Encoder) :
    e.step .trigger = (.ok none, { e with mark := some e.filled }) :=
  rfl

/-- A block of samples that are zero bytes wide is refused. -/
theorem step_block_of_eq_zero (e : Encoder) {b : Block} (h : b.unitSize = 0) :
    e.step (.block b) = (.error .emptySample, e) := by
  rw [step, receive, Block.samples?, if_pos h]

theorem step_block (e : Encoder) {b : Block} (h : b.unitSize ≠ 0) :
    e.step (.block b) =
      (.ok (someText ({ e with header := none }.pushAll b.samples (e.header.getD "")).2),
        ({ e with header := none }.pushAll b.samples (e.header.getD "")).1) := by
  rw [step, receive, Block.samples?, if_neg h]

theorem step_finish (e : Encoder) : e.step .finish = (.ok (someText e.finish.2), e.finish.1) := rfl

theorem pushAll_cons (e : Encoder) (sample : Sample) (samples : List Sample) (text : String) :
    e.pushAll (sample :: samples) text
      = (e.push sample).1.pushAll samples (text ++ (e.push sample).2) := rfl

/-! ### Following a recording -/

/-- An encoder **follows** the recording of a stream that is not over. -/
structure Follows (e : Encoder) (device : Device) (width : Nat) (r : Recording) : Prop where
  width_eq : e.width = width
  holds : e.Holds device.selected (r.rest width)
  mark : device.selected ≠ [] → e.mark = r.mark width (r.groupCount width)
  header : e.header = if r.begun then none else some (Report.header device)
  silent : r.begun = false → r.samples = []
  triggers : ∀ t ∈ r.triggers, t ≤ r.samples.length
  open_ : r.ended = false

variable {e : Encoder} {device : Device} {width : Nat} {r : Recording}

/-- Without a width there is no encoder. -/
theorem ofDevice_eq_error (device : Device) {text : Option String} {refusal : Refusal}
    (h : chosenWidth text = .error refusal) : ofDevice device text = .error refusal := by
  rw [ofDevice]
  split
  · rename_i hrefusal
    exact congrArg _ (Except.error.inj (hrefusal.symm.trans h))
  · rename_i hchosen
    rw [hchosen] at h
    cases h

/-- A text that denotes a width is enough for an encoder, and it begins with the empty
recording. -/
theorem exists_ofDevice (device : Device) {text : Option String}
    (h : chosenWidth text = .ok width) :
    ∃ e, ofDevice device text = .ok e ∧ e.Follows device width {} := by
  rw [ofDevice]
  split
  · rename_i refusal hrefusal
    rw [hrefusal] at h
    cases h
  · rename_i chosen hchosen
    rw [hchosen] at h
    obtain rfl : chosen = width := Except.ok.inj h
    refine ⟨_, rfl, rfl, ⟨?_, ?_, ?_⟩, fun _ => rfl, rfl, fun _ => rfl, by simp, rfl⟩
    · simp
    · simpa using chosenWidth_pos hchosen
    · simpa [Recording.rest] using LanesHold.ofChannels device.selected

/-- One more sample in the encoder is one more sample in the recording, and its text is what the
complete groups gain. -/
theorem Follows.push (h : e.Follows device width r) (hbegun : r.begun = true) (sample : Sample) :
    (e.push sample).1.Follows device width (r.push sample) ∧
      groupLines device.selected width (r.push sample)
        = groupLines device.selected width r ++ (e.push sample).2 := by
  have hroom := h.holds.room
  rw [h.width_eq] at hroom
  have hheader : (e.push sample).1.header
      = if (r.push sample).begun then none else some (Report.header device) := by
    rw [header_push, h.header]
    rfl
  have hsilent : (r.push sample).begun = false → (r.push sample).samples = [] := by
    intro hnot
    rw [Recording.push, hbegun] at hnot
    cases hnot
  have htriggers : ∀ t ∈ (r.push sample).triggers, t ≤ (r.push sample).samples.length := by
    intro t ht
    rw [Recording.length_samples_push]
    exact Nat.le_succ_of_le (h.triggers t ht)
  have hwidth : (e.push sample).1.width = width := (width_push e sample).trans h.width_eq
  by_cases hfull : (r.rest width).length + 1 = width
  · obtain ⟨hholds, hmark, htext⟩ := h.holds.push_of_full (hfull.trans h.width_eq.symm) sample
    have hnone : (r.push sample).mark width ((r.push sample).groupCount width) = none := by
      apply Recording.mark_eq_none
      intro t ht
      rw [Recording.groupCount_push_of_full hfull]
      exact Nat.lt_succ_of_le (Nat.div_le_div_right (h.triggers t ht))
    refine ⟨⟨hwidth, ?_, ?_, hheader, hsilent, htriggers, h.open_⟩, ?_⟩
    · rw [Recording.rest_push_of_full hfull]
      exact hholds
    · intro hne
      rw [hmark, hnone, if_neg (by rwa [List.isEmpty_iff])]
    · rw [groupLines_push_of_full _ hfull, htext]
      by_cases hnil : device.selected = []
      · simp [hnil, groupText]
      · rw [h.mark hnil]
  · have hroom' : (r.rest width).length + 1 < width := by omega
    obtain ⟨hholds, hmark, htext⟩ := h.holds.push_of_room (h.width_eq.symm ▸ hroom') sample
    refine ⟨⟨hwidth, ?_, ?_, hheader, hsilent, htriggers, h.open_⟩, ?_⟩
    · rw [Recording.rest_push_of_room hroom']
      exact hholds
    · intro hne
      rw [hmark, h.mark hne, Recording.groupCount_push_of_room hroom']
      rfl
    · rw [groupLines_push_of_room _ hroom', htext, String.append_empty]

/-- The samples of a block, one after another. -/
theorem Follows.pushAll (h : e.Follows device width r) (hbegun : r.begun = true)
    (samples : List Sample) (text : String) :
    ∃ more, (e.pushAll samples text).2 = text ++ more ∧
      (e.pushAll samples text).1.Follows device width { r with samples := r.samples ++ samples } ∧
      groupLines device.selected width { r with samples := r.samples ++ samples }
        = groupLines device.selected width r ++ more := by
  rw [← Recording.foldl_push]
  induction samples generalizing e r text with
  | nil => exact ⟨"", by simp [Encoder.pushAll], h, by simp⟩
  | cons sample samples ih =>
    obtain ⟨hnext, hlines⟩ := h.push hbegun sample
    obtain ⟨more, htext, hfollows, hmore⟩ := ih hnext hbegun (text ++ (e.push sample).2)
    refine ⟨(e.push sample).2 ++ more, ?_, hfollows, ?_⟩
    · rw [pushAll_cons, htext, String.append_assoc]
    · rw [List.foldl_cons, hmore, hlines, String.append_assoc]

/-- The layout of a recording that is not over ends with its complete groups. -/
theorem Follows.layout_eq (h : e.Follows device width r) :
    layout device width r
      = (if r.begun then Report.header device else "") ++ groupLines device.selected width r := by
  rw [layout, h.open_]
  exact String.append_empty

theorem Follows.add_trigger (h : e.Follows device width r) :
    (e.step .trigger).2.Follows device width (r.add .trigger) ∧
      layout device width (r.add .trigger)
        = layout device width r ++ textOf (e.step .trigger).1 := by
  have hfollows : (e.step .trigger).2.Follows device width (r.add .trigger) := by
    refine ⟨h.width_eq, ⟨h.holds.filled, h.holds.room, h.holds.lanes⟩, ?_, h.header, h.silent, ?_,
      h.open_⟩
    · intro _
      rw [step_trigger, h.holds.filled]
      exact (Recording.mark_add_trigger_self r width).symm
    · intro t ht
      rcases List.mem_append.mp ht with hold | hnew
      · exact h.triggers t hold
      · exact Nat.le_of_eq (List.mem_singleton.mp hnew)
  refine ⟨hfollows, ?_⟩
  rw [hfollows.layout_eq, h.layout_eq, groupLines_add_trigger, step_trigger, textOf,
    String.append_empty]
  rfl

theorem Follows.add_block (h : e.Follows device width r) (b : Block) :
    (e.step (.block b)).2.Follows device width (r.add (.block b)) ∧
      layout device width (r.add (.block b))
        = layout device width r ++ textOf (e.step (.block b)).1 := by
  by_cases hunit : b.unitSize = 0
  · rw [step_block_of_eq_zero e hunit, Recording.add, if_pos hunit]
    exact ⟨h, String.append_empty.symm⟩
  · have hbegin : Follows { e with header := none } device width { r with begun := true } := by
      refine ⟨h.width_eq, ⟨h.holds.filled, h.holds.room, h.holds.lanes⟩, h.mark, rfl, ?_,
        h.triggers, h.open_⟩
      intro hnot
      cases hnot
    obtain ⟨more, htext, hfollows, hlines⟩ := hbegin.pushAll rfl b.samples (e.header.getD "")
    have hsame : groupLines device.selected width { r with begun := true }
        = groupLines device.selected width r := rfl
    rw [step_block e hunit, Recording.add, if_neg hunit]
    refine ⟨hfollows, ?_⟩
    rw [hfollows.layout_eq, h.layout_eq, hlines, hsame, textOf_someText, htext, h.header]
    -- The header comes out with the first block, when there are no groups yet.
    cases hbegun : r.begun with
    | true => simp [String.append_assoc]
    | false =>
      have hnone : groupLines device.selected width r = "" := by
        rw [groupLines, Recording.groupCount, h.silent hbegun]
        simp
      simp [hnone]

/-- **One packet of a stream that goes on** keeps the invariant and adds its text to the layout. -/
theorem Follows.step (h : e.Follows device width r) {packet : Packet} (hgoes : packet ≠ .finish) :
    (e.step packet).2.Follows device width (r.add packet) ∧
      layout device width (r.add packet) = layout device width r ++ textOf (e.step packet).1 := by
  cases packet with
  | trigger => exact h.add_trigger
  | block b => exact h.add_block b
  | finish => exact absurd rfl hgoes

/-- **The packets of a stream that goes on** keep the invariant and add their texts to the
layout. -/
theorem Follows.run (h : e.Follows device width r) {packets : List Packet}
    (hgoes : ∀ p ∈ packets, p ≠ .finish) :
    (e.after packets).Follows device width (packets.foldl Recording.add r) ∧
      layout device width (packets.foldl Recording.add r)
        = layout device width r ++ e.report packets := by
  induction packets generalizing e r with
  | nil => exact ⟨h, String.append_empty.symm⟩
  | cons packet packets ih =>
    obtain ⟨hnext, hlayout⟩ := h.step (hgoes packet List.mem_cons_self)
    obtain ⟨hfollows, hrest⟩ := ih hnext fun p hp => hgoes p (List.mem_cons_of_mem _ hp)
    refine ⟨hfollows, ?_⟩
    rw [List.foldl_cons, hrest, hlayout, report_cons, String.append_assoc]

/-- The end of the stream adds the lines that are left over. -/
theorem Follows.finish (h : e.Follows device width r) :
    layout device width (r.add .finish) = layout device width r ++ textOf (e.step .finish).1 := by
  rw [h.layout_eq, layout, step_finish, textOf_someText, h.holds.finish.2]
  rfl

/-- What a stream brings out is the layout of its recording, as long as the end of the stream comes
last, if at all. -/
theorem Follows.report_eq (h : e.Follows device width {}) {packets : List Packet}
    (hopen : ∀ p ∈ packets.dropLast, p ≠ .finish) :
    e.report packets = layout device width (Recording.ofPackets packets) := by
  have hempty : layout device width {} = "" := by simp [layout, groupLines, Recording.groupCount]
  rcases List.eq_nil_or_concat packets with rfl | ⟨front, last, rfl⟩
  · exact hempty.symm
  · rw [List.concat_eq_append, List.dropLast_concat] at hopen
    obtain ⟨hfollows, hlayout⟩ := h.run hopen
    rw [hempty, String.empty_append] at hlayout
    rw [List.concat_eq_append, report_append, ← hlayout, Recording.ofPackets_concat, report_cons,
      report_nil, String.append_empty]
    by_cases hlast : last = .finish
    · rw [hlast]
      exact hfollows.finish.symm
    · exact (hfollows.step hlast).2.symm

end Encoder

/-- **What has come out is the layout of what has gone in**, after each packet of a stream whose
last packet may be its end. -/
theorem texts_eq_layout (device : Device) {text : Option String} {width : Nat}
    (hwidth : chosenWidth text = .ok width) {packets : List Packet}
    (hopen : ∀ p ∈ packets.dropLast, p ≠ .finish) :
    ∃ e, Encoder.ofDevice device text = .ok e ∧
      ∀ n, textsOf ((e.answers packets).take n)
        = layout device width (Recording.ofPackets (packets.take n)) := by
  obtain ⟨e, hnew, hfollows⟩ := Encoder.exists_ofDevice device hwidth
  refine ⟨e, hnew, fun n => ?_⟩
  rw [Encoder.answers_take]
  apply hfollows.report_eq
  intro p hp
  have hle : min ((packets.take n).length - 1) n ≤ packets.length - 1 := by
    rw [List.length_take]
    omega
  rw [List.dropLast_eq_take, List.take_take] at hp
  apply hopen p
  rw [List.dropLast_eq_take]
  exact List.take_subset_take_left packets hle hp

/-- The texts at a width that is no whole number of bytes, with samples of two sizes, two triggers
and a block that is refused. -/
theorem texts_eq_layout_ten :
    let device : Device :=
      { channels := [{ index := 9, name := "HI" }, { index := 0, name := "LO" }] }
    let packets : List Packet :=
      [.trigger, .block ⟨1, [1, 0, 255]⟩, .block ⟨0, [7]⟩, .trigger,
        .block ⟨2, List.replicate 19 255⟩, .finish]
    chosenWidth (some "10") = .ok 10 ∧ (∀ p ∈ packets.dropLast, p ≠ .finish) ∧
      ∃ e, Encoder.ofDevice device (some "10") = .ok e ∧
        ∀ n, textsOf ((e.answers packets).take n)
          = layout device 10 (Recording.ofPackets (packets.take n)) := by
  intro device packets
  have hwidth : chosenWidth (some "10") = .ok 10 := rfl
  have hopen : ∀ p ∈ packets.dropLast, p ≠ .finish := by decide
  exact ⟨hwidth, hopen, texts_eq_layout device hwidth hopen⟩

example :
    layout { channels := [{ index := 0, name := "D0" }, { index := 1, name := "D1" }] } 8
        (Recording.ofPackets [.block ⟨1, [1, 0, 1]⟩, .trigger, .block ⟨1, [0, 1, 0, 1, 0, 1, 3]⟩,
          .finish])
      = "logic-hex 0.1.0\nD0:aa \nD1:00 \nT:   ^ 3\nD0:c0 \nD1:40 \n" := by
  decide

end CaptureReport.Report
