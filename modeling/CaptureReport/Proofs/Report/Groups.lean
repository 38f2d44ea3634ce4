import CaptureReport.Proofs.Report.Layout

/-!
# Reports compared

The complete groups of a recording come out one after the other, and each shows nothing but its own
samples and the latest trigger among them. So two recordings bring out the same wherever they agree.
This module draws two conclusions from that.

A recording that **begins** another one, in that it is not over and the other one only adds samples
and triggers behind its last sample, has a layout that the layout of the other one begins with.

A recording with one trigger and the same recording without any differ in the line of the trigger,
which stands below the group that the trigger falls into; and not at all if there is no such group,
or no channel to stand below.

## Main results

* `Recording.Begins.layout_eq`: what has come out is not taken back.
* `layout_marked_of_complete`, `layout_marked_of_incomplete`, `layout_marked_of_selected_eq_nil`:
  what a trigger adds.
-/

namespace CaptureReport.Report

/-! ### Runs of groups -/

/-- What several groups bring out, from one of them on. -/
def groupTexts (channels : List Channel) (width : Nat) (r : Recording) (start count : Nat) :
    String :=
  String.join ((List.range' start count).map fun g =>
    groupText channels (r.group width g) (r.mark width g))

section Runs

variable {channels : List Channel} {width : Nat} {r r' : Recording} {start count : Nat}

theorem groupLines_eq (channels : List Channel) (width : Nat) (r : Recording) :
    groupLines channels width r = groupTexts channels width r 0 (r.groupCount width) := by
  rw [groupLines, List.range_eq_range', groupTexts]

theorem groupTexts_add (channels : List Channel) (width : Nat) (r : Recording)
    (start count more : Nat) :
    groupTexts channels width r start (count + more)
      = groupTexts channels width r start count ++
        groupTexts channels width r (start + count) more := by
  rw [groupTexts, ← List.range'_append_1, List.map_append, String.join_append]
  rfl

theorem groupTexts_one (channels : List Channel) (width : Nat) (r : Recording) (g : Nat) :
    groupTexts channels width r g 1 = groupText channels (r.group width g) (r.mark width g) := by
  rw [groupTexts, List.range'_one, List.map_singleton, String.join_cons, String.join_nil,
    String.append_empty]

/-- The complete groups are those before one of them, that one, and those behind it. -/
theorem groupLines_split {g : Nat} (channels : List Channel) (hg : g < r.groupCount width) :
    groupLines channels width r = groupTexts channels width r 0 g ++
      (groupTexts channels width r g 1 ++
        groupTexts channels width r (g + 1) (r.groupCount width - (g + 1))) := by
  have hcount : r.groupCount width = g + (1 + (r.groupCount width - (g + 1))) := by omega
  rw [groupLines_eq, hcount, groupTexts_add, Nat.zero_add, groupTexts_add, ← hcount]

/-- Groups that are alike bring out the same. -/
theorem groupTexts_congr (hgroup : ∀ g, start ≤ g → g < start + count →
      r'.group width g = r.group width g)
    (hmark : ∀ g, start ≤ g → g < start + count → r'.mark width g = r.mark width g) :
    groupTexts channels width r' start count = groupTexts channels width r start count := by
  rw [groupTexts, groupTexts]
  congr 1
  apply List.map_congr_left
  intro g hg
  obtain ⟨hge, hlt⟩ := List.mem_range'_1.mp hg
  rw [hgroup g hge hlt, hmark g hge hlt]

end Runs

/-- Where no data has come, nothing comes out. -/
theorem layout_of_empty (device : Device) (width : Nat) {r : Recording} (hbegun : r.begun = false)
    (hsamples : r.samples = []) : layout device width r = "" := by
  have hcount : r.groupCount width = 0 := by
    rw [Recording.groupCount, hsamples, List.length_nil, Nat.zero_div]
  have hrest : r.rest width = [] := by rw [Recording.rest, hsamples, List.drop_nil]
  rw [layout, groupLines, lastLines, hbegun, hcount, hrest]
  simp

/-! ### Recordings that begin others -/

namespace Recording

/-- A recording that another one **begins** with: it is not over, and the other one adds samples and
triggers behind those that are there. -/
structure Begins (r r' : Recording) : Prop where
  open_ : r.ended = false
  silent : r.begun = false → r.samples = []
  begun : r.begun = true → r'.begun = true
  samples : r.samples <+: r'.samples
  triggers : ∃ later, r'.triggers = r.triggers ++ later ∧ ∀ t ∈ later, r.samples.length ≤ t

variable {r r' : Recording} {width g : Nat}

/-- Triggers behind a complete group are not shown in it. -/
theorem Begins.mark_eq (h : r.Begins r') (hg : g < r.groupCount width) :
    r'.mark width g = r.mark width g := by
  obtain ⟨later, htriggers, hbehind⟩ := h.triggers
  apply mark_of_outside htriggers
  intro t ht
  have hle : r.groupCount width ≤ t / width := Nat.div_le_div_right (hbehind t ht)
  omega

/-- **What has come out is not taken back.** -/
theorem Begins.layout_eq (h : r.Begins r') (device : Device) (width : Nat) :
    ∃ rest, layout device width r' = layout device width r ++ rest := by
  cases hbegun : r.begun with
  | false =>
    rw [layout_of_empty device width hbegun (h.silent hbegun)]
    exact ⟨_, String.empty_append.symm⟩
  | true =>
    have hle : r.groupCount width ≤ r'.groupCount width :=
      Nat.div_le_div_right h.samples.length_le
    obtain ⟨more, hmore⟩ := Nat.exists_eq_add_of_le hle
    have hsame : groupTexts device.selected width r' 0 (r.groupCount width)
        = groupLines device.selected width r := by
      rw [groupLines_eq]
      apply groupTexts_congr
      · exact fun g _ hg => group_of_begin h.samples (by omega)
      · exact fun g _ hg => h.mark_eq (by omega)
    rw [layout, layout, h.open_, hbegun, h.begun hbegun, groupLines_eq _ _ r', hmore,
      groupTexts_add, hsame]
    refine ⟨groupTexts device.selected width r' (0 + r.groupCount width) more ++
      if r'.ended then lastLines device.selected width r' else "", ?_⟩
    simp only [if_true, Bool.false_eq_true, if_false, String.append_empty, String.append_assoc]

end Recording

/-! ### One trigger and none -/

/-- The recording with a trigger before one of its samples, and no other. -/
def Recording.marked (r : Recording) (k : Nat) : Recording :=
  { r with triggers := [k] }

/-- The samples before a group, as a stream that goes on. -/
def Recording.before (r : Recording) (width g : Nat) : Recording where
  begun := r.begun
  samples := r.samples.take (width * g)

section Marking

variable {r : Recording} {width g k : Nat}

theorem Recording.mark_of_triggers_nil (hnone : r.triggers = []) (width g : Nat) :
    r.mark width g = none :=
  mark_eq_none (by rw [hnone]; exact fun t ht => absurd ht List.not_mem_nil)

/-- The trigger is shown in its own group. -/
theorem Recording.mark_marked (r : Recording) (width k : Nat) :
    (r.marked k).mark width (k / width) = some (k % width) := by
  simp [mark, marked]

/-- The trigger is not shown in another group. -/
theorem Recording.mark_marked_of_ne (hne : g ≠ k / width) : (r.marked k).mark width g = none := by
  have hnot : ¬ k / width = g := fun heq => hne heq.symm
  simp [mark, marked, hnot]

/-- The groups before one of them are complete and come out as those of the samples before it. -/
theorem groupLines_before (channels : List Channel) (hnone : r.triggers = [])
    (hg : g < r.groupCount width) :
    groupLines channels width (r.before width g) = groupTexts channels width r 0 g := by
  have hle := mul_add_le_of_lt_div hg
  have hwidth : 0 < width := by
    rcases Nat.eq_zero_or_pos width with rfl | hpos
    · rw [Recording.groupCount, Nat.div_zero] at hg
      exact absurd hg (Nat.not_lt_zero g)
    · exact hpos
  have hcount : (r.before width g).groupCount width = g := by
    rw [Recording.groupCount, Recording.before, List.length_take, Nat.min_eq_left (by omega),
      Nat.mul_div_cancel_left g hwidth]
  rw [groupLines_eq, hcount]
  symm
  apply groupTexts_congr
  · intro i _ hi
    have hbegin : (r.before width g).samples <+: r.samples := List.take_prefix _ _
    apply Recording.group_of_begin hbegin
    rw [hcount]
    omega
  · intro i _ _
    rw [Recording.mark_of_triggers_nil hnone, Recording.mark_of_triggers_nil rfl]

/-- The groups on either side of the trigger's are those without the trigger. -/
theorem groupTexts_marked {channels : List Channel} {start count : Nat} (hnone : r.triggers = [])
    (hout : k / width < start ∨ start + count ≤ k / width) :
    groupTexts channels width (r.marked k) start count
      = groupTexts channels width r start count := by
  apply groupTexts_congr
  · exact fun g _ _ => rfl
  · intro g hge hlt
    rw [Recording.mark_marked_of_ne (by omega), Recording.mark_of_triggers_nil hnone]

/-- A group without a trigger brings out the lines of its channels. -/
theorem groupTexts_plain (channels : List Channel) (hnone : r.triggers = []) (g : Nat) :
    groupTexts channels width r g 1 = unlines (channels.map (fullLine (r.group width g))) := by
  rw [groupTexts_one, Recording.mark_of_triggers_nil hnone, groupText]
  simp

/-- The group of the trigger brings out the line of the trigger below them. -/
theorem groupTexts_marked_self {channels : List Channel} (hne : channels ≠ []) :
    groupTexts channels width (r.marked k) (k / width) 1
      = unlines (channels.map (fullLine (r.group width (k / width)))) ++ markLine (k % width) := by
  rw [groupTexts_one, Recording.mark_marked, groupText, if_neg (by rwa [List.isEmpty_iff])]
  rfl

/-- **The line of the trigger stands below its group**, and nothing else is different. -/
theorem layout_marked_of_complete {device : Device} (hnone : r.triggers = [])
    (hg : k / width < r.groupCount width) (hselected : device.selected ≠ []) :
    ∃ after,
      layout device width r = layout device width (r.before width (k / width)) ++
        unlines (device.selected.map (fullLine (r.group width (k / width)))) ++ after ∧
      layout device width (r.marked k) = layout device width (r.before width (k / width)) ++
        unlines (device.selected.map (fullLine (r.group width (k / width)))) ++
          markLine (k % width) ++ after := by
  set channels := device.selected with hchannels
  have hopen : layout device width (r.before width (k / width))
      = (if r.begun then header device else "") ++ groupTexts channels width r 0 (k / width) := by
    rw [layout, ← hchannels, groupLines_before channels hnone hg]
    exact String.append_empty
  have hfront : groupTexts channels width (r.marked k) 0 (k / width)
      = groupTexts channels width r 0 (k / width) :=
    groupTexts_marked hnone (.inr (Nat.le_of_eq (Nat.zero_add _)))
  set later := r.groupCount width - (k / width + 1) with hlater
  have hback : groupTexts channels width (r.marked k) (k / width + 1) later
      = groupTexts channels width r (k / width + 1) later :=
    groupTexts_marked hnone (.inl (Nat.lt_succ_self _))
  have hplain := groupLines_split channels hg
  have hmarked := groupLines_split (r := r.marked k) channels hg
  rw [groupTexts_plain channels hnone] at hplain
  rw [groupTexts_marked_self hselected, hfront] at hmarked
  refine ⟨groupTexts channels width r (k / width + 1) later ++
    if r.ended then lastLines channels width r else "", ?_, ?_⟩
  · rw [hopen, layout, ← hchannels, hplain]
    simp only [String.append_assoc, hlater]
  · rw [hopen, layout, ← hchannels, hmarked, ← hback]
    simp only [String.append_assoc]
    rfl

/-- A trigger in a group that never gets complete is not shown. -/
theorem layout_marked_of_incomplete (device : Device) (hnone : r.triggers = [])
    (hg : r.groupCount width ≤ k / width) :
    layout device width (r.marked k) = layout device width r := by
  have hlines : groupLines device.selected width (r.marked k)
      = groupLines device.selected width r := by
    have hcount : (r.marked k).groupCount width = r.groupCount width := rfl
    rw [groupLines_eq, groupLines_eq, hcount, groupTexts_marked hnone (.inr (by omega))]
  rw [layout, hlines]
  rfl

/-- With no channel to stand below, no trigger is shown. -/
theorem layout_marked_of_selected_eq_nil {device : Device} (r : Recording) (width k : Nat)
    (hselected : device.selected = []) :
    layout device width (r.marked k) = layout device width r := by
  have hlines : groupLines device.selected width (r.marked k)
      = groupLines device.selected width r := by
    rw [hselected, groupLines, groupLines]
    rfl
  rw [layout, hlines]
  rfl

end Marking

end CaptureReport.Report
