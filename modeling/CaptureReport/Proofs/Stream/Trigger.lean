import CaptureReport.Proofs.Stream.Reports

/-!
# What a trigger adds to a report

A trigger that is asked for at a sample shows in the report as a single line, below the channels of
the group that the sample falls into, and nothing else of the report is any different. If that group
never gets complete, as when the capture ends before the sample, or if there is no channel, then
there is no line either.

## Main results

* `run_withTrigger`: the same run with a trigger and without one.
-/

namespace CaptureReport

/-- The settings with a trigger at another sample, or with none. -/
def Settings.withTrigger (settings : Settings) (trigger : Option Nat) : Settings :=
  { settings with input := { settings.input with triggerAt := trigger } }

namespace Stream

open Report

variable {settings : Settings} {device : Device} {p : Plan}

/-- The checks do not look at the trigger. -/
theorem plan_withTrigger (settings : Settings) (device : Device) (trigger : Option Nat) :
    plan (settings.withTrigger trigger) device = plan settings device :=
  rfl

theorem lineWidth_pos_of_plan (h : plan settings device = .ok p) :
    0 < settings.output.lineWidth := by
  obtain ⟨e, -, hfollows⟩ := encoder_of_plan h
  rw [← hfollows.width_eq]
  exact e.width_pos

section Recordings

variable {unitSize k : Nat} {data : List UInt8}

/-- A trigger that the capture reaches is in its recording. -/
theorem recordingOf_of_le (h : k ≤ data.length / unitSize) :
    recordingOf unitSize (some k) data = (recordingOf unitSize none data).marked k := by
  have hreached : reached unitSize (some k) data = some k := reached_eq_some_iff.mpr ⟨rfl, h⟩
  rw [recordingOf, hreached]
  rfl

/-- A trigger past the end of the capture is not. -/
theorem recordingOf_of_lt (h : data.length / unitSize < k) :
    recordingOf unitSize (some k) data = recordingOf unitSize none data := by
  have hreached : reached unitSize (some k) data = none :=
    Option.filter_some_neg (by simpa using h)
  rw [recordingOf, hreached]
  rfl

end Recordings

/-- A trigger whose group does not get complete, or that no channel stands above, changes nothing of
the layout, whether the capture reaches it or not. -/
theorem layout_recordingOf_of_not_shown {unitSize width k : Nat} (hwidth : 0 < width)
    {data : List UInt8}
    (h : ¬ (device.selected ≠ [] ∧
      (k / width + 1) * width ≤ (Block.mk unitSize data).samples.length)) :
    layout device width (recordingOf unitSize (some k) data)
      = layout device width (recordingOf unitSize none data) := by
  rcases Nat.lt_or_ge (data.length / unitSize) k with hpast | hwithin
  · rw [recordingOf_of_lt hpast]
  · rw [recordingOf_of_le hwithin]
    rcases Classical.em (device.selected = []) with hselected | hselected
    · exact layout_marked_of_selected_eq_nil _ _ _ hselected
    · apply layout_marked_of_incomplete device rfl
      have hlt : (Block.mk unitSize data).samples.length < (k / width + 1) * width :=
        Nat.lt_of_not_le fun hle => h ⟨hselected, hle⟩
      exact Nat.le_of_lt_succ ((Nat.div_lt_iff_lt_mul hwidth).mpr hlt)

/-- A trigger whose group gets complete has its line behind those of the group, if there are any. -/
theorem layout_recordingOf_of_shown {unitSize width k : Nat} (hwidth : 0 < width)
    {data : List UInt8} (hselected : device.selected ≠ [])
    (hcomplete : (k / width + 1) * width ≤ (Block.mk unitSize data).samples.length) :
    ∃ after,
      layout device width (recordingOf unitSize none data) =
        layout device width { begun := true
                              samples := (Block.mk unitSize data).samples.take
                                (width * (k / width)) } ++
          unlines (device.selected.map (fullLine
            (((Block.mk unitSize data).samples.drop (width * (k / width))).take width))) ++ after ∧
      layout device width (recordingOf unitSize (some k) data) =
        layout device width { begun := true
                              samples := (Block.mk unitSize data).samples.take
                                (width * (k / width)) } ++
          unlines (device.selected.map (fullLine
            (((Block.mk unitSize data).samples.drop (width * (k / width))).take width))) ++
          markLine (k % width) ++ after := by
  have hcount : (Block.mk unitSize data).samples.length = data.length / unitSize :=
    Block.length_samples _
  have hgroup : k / width < (Block.mk unitSize data).samples.length / width :=
    (Nat.le_div_iff_mul_le hwidth).mpr hcomplete
  have hk : k < (k / width + 1) * width :=
    (Nat.div_lt_iff_lt_mul hwidth).mp (Nat.lt_succ_self _)
  have hwithin : k < data.length / unitSize := by omega
  -- A complete group has samples in it, so the capture has bytes.
  have hbegun : (recordingOf unitSize none data).begun = true := by
    cases data with
    | nil =>
      rw [List.length_nil, Nat.zero_div] at hwithin
      exact absurd hwithin (Nat.not_lt_zero k)
    | cons byte rest => rfl
  have hbefore : (recordingOf unitSize none data).before width (k / width)
      = { begun := true
          samples := (Block.mk unitSize data).samples.take (width * (k / width)) } := by
    rw [Recording.before, hbegun]
    rfl
  rw [recordingOf_of_le (Nat.le_of_lt hwithin), ← hbefore]
  exact layout_marked_of_complete rfl hgroup hselected

/-- **The same run with a trigger and without one.** Both report; if the group of the trigger gets
complete and has a line, the line of the trigger stands right behind its lines, and otherwise the
reports are the same. -/
theorem run_withTrigger {source : Source} {sink : Sink} (hplan : plan settings device = .ok p)
    (hroom : p.cutting.blockSize ≤ memoryLimit) (hfault : source.fault = none)
    (hsink : sink.NeverFails) (k : Nat) :
    let width := settings.output.lineWidth
    let samples := (Block.mk settings.input.sampleSize source.bytes).samples
    let before := layout device width
      { begun := true, samples := samples.take (width * (k / width)) }
    let lines := unlines
      (device.selected.map (fullLine ((samples.drop (width * (k / width))).take width)))
    ∃ report marked,
      (run (settings.withTrigger none) device source sink).Reports sink report ∧
      (run (settings.withTrigger (some k)) device source sink).Reports sink marked ∧
      (device.selected ≠ [] ∧ (k / width + 1) * width ≤ samples.length →
        ∃ after, report = before ++ lines ++ after ∧
          marked = before ++ lines ++ markLine (k % width) ++ after) ∧
      (¬ (device.selected ≠ [] ∧ (k / width + 1) * width ≤ samples.length) →
        marked = report) := by
  intro width samples before lines
  have hwidth : 0 < width := lineWidth_pos_of_plan hplan
  have hplain := (plan_withTrigger settings device none).trans hplan
  have hmarked := (plan_withTrigger settings device (some k)).trans hplan
  refine ⟨_, _, run_reports hplain hroom hfault hsink, run_reports hmarked hroom hfault hsink,
    ?_, ?_⟩
  · rintro ⟨hselected, hcomplete⟩
    exact layout_recordingOf_of_shown hwidth hselected hcomplete
  · intro hnot
    exact layout_recordingOf_of_not_shown hwidth hnot

/-- The trigger at sample 9 of 20 stands below the second group of eight, at its sample 1. -/
theorem run_withTrigger_nine :
    let device : Device :=
      { channels := [{ index := 0, name := "LO" }, { index := 7, name := "HI" }] }
    let settings : Settings := { output := { width := some 8 }, stream := { chunkSamples := 3 } }
    let source : Source := { later := [.burst [1, 2, 3, 4], .interrupted,
      .burst [5, 6, 7, 8, 9, 10, 11], .burst [12, 13, 14, 15, 16, 17, 18, 19, 20]] }
    let sink : Sink := { perWrite := some 5 }
    ∃ p, plan settings device = .ok p ∧ p.cutting.blockSize ≤ memoryLimit ∧
      source.fault = none ∧ sink.NeverFails ∧
      ∃ before lines after,
        (run (settings.withTrigger none) device source sink).Reports sink
          (before ++ lines ++ after) ∧
        (run (settings.withTrigger (some 9)) device source sink).Reports sink
          (before ++ lines ++ markLine 1 ++ after) := by
  intro device settings source sink
  obtain ⟨p, hplan⟩ : ∃ p, plan settings device = .ok p := exists_plan (by decide)
  have hroom : p.cutting.blockSize ≤ memoryLimit := by
    rw [blockSize_of_plan hplan]
    decide
  have hfault : source.fault = none := rfl
  have hsink : sink.NeverFails := ⟨by decide, rfl, rfl⟩
  obtain ⟨report, marked, hreport, hmarked, hshown, -⟩ :=
    run_withTrigger hplan hroom hfault hsink 9
  obtain ⟨after, rfl, rfl⟩ := hshown ⟨by decide, by decide⟩
  have hplace : 9 % settings.output.lineWidth = 1 := by decide
  rw [hplace] at hmarked
  exact ⟨p, hplan, hroom, hfault, hsink, _, _, _, hreport, hmarked⟩

end Stream

end CaptureReport
