import CaptureReport.Proofs.Stream.Direct
import CaptureReport.Proofs.Text.Decimal

/-!
# What a run reports

Settings that pass the checks give a session an encoder for lines of the width they ask for, and the
report of a run that ends well is the layout of its capture at that width. From here on, what is
asked of the reports of runs can be asked of layouts.

## Main results

* `encoder_of_plan`: the encoder of a plan, and the width of its lines.
* `run_reports`: the report of a run whose source ends without a failure, to a sink that never
  fails.
-/

namespace CaptureReport

/-- Samples per line that the settings ask for. -/
def OutputSettings.lineWidth (s : OutputSettings) : Nat :=
  s.width.getD Report.defaultWidth

namespace Stream

open Report

/-- A run **reports** a text to a sink: it ends well, and the text is what it has added to what the
sink had received before. -/
structure Run.Reports (r : Run) (sink : Sink) (report : String) : Prop where
  ok : ∃ stats, r.result = .ok stats
  received : r.sink.received.toList = sink.received.toList ++ Consumer.bytesOf report

/-- A run with an outcome that is made of a report reports it. -/
theorem Run.reports_of_outcome {r : Run} {c : Cutting} {trigger : Option Nat} {data : List UInt8}
    {sink : Sink} {report : String} (h : r.outcome = .ok (.ofReport c trigger data sink report)) :
    r.Reports sink report := by
  obtain ⟨result, notices, last⟩ := r
  cases result with
  | error failure => cases h
  | ok stats => exact ⟨⟨stats, rfl⟩, congrArg Outcome.received (Except.ok.inj h)⟩

variable {settings : Settings} {device : Device} {p : Plan}

/-- The options of the session denote the width that the settings ask for, if they denote one. -/
theorem eq_lineWidth_of_chosenWidth {output : OutputSettings} {width : Nat}
    (h : chosenWidth ((sessionOptions output).lookup "width") = .ok width) :
    width = output.lineWidth := by
  rw [sessionOptions] at h
  rw [OutputSettings.lineWidth]
  cases hwidth : output.width with
  | none =>
    rw [hwidth] at h
    exact (Except.ok.inj h).symm
  | some n =>
    rw [hwidth] at h
    exact eq_of_chosenWidth_repr h

/-- **The encoder of a plan** has not taken in anything and has lines of the width that the settings
ask for. -/
theorem encoder_of_plan (h : plan settings device = .ok p) :
    ∃ e, p.session.encoder = some e ∧ e.Follows device settings.output.lineWidth {} := by
  obtain ⟨format, -, hsession, -⟩ := plan_eq_ok_iff.mp h
  obtain ⟨e, width, hwidth, hencoder, hfollows⟩ := encoder_of_start hsession
  obtain rfl := eq_lineWidth_of_chosenWidth hwidth
  exact ⟨e, hencoder, hfollows⟩

/-- Settings that pass the checks have a plan. -/
theorem exists_plan (h : (plan settings device).isOk = true) :
    ∃ p, plan settings device = .ok p := by
  cases hplan : plan settings device with
  | error failure =>
    rw [hplan] at h
    cases h
  | ok p => exact ⟨p, rfl⟩

theorem unitSize_of_plan (h : plan settings device = .ok p) :
    p.cutting.unitSize = settings.input.sampleSize := by
  obtain ⟨-, -, -, hcutting⟩ := plan_eq_ok_iff.mp h
  exact unitSize_of_planCutting hcutting

theorem chunkSamples_of_plan (h : plan settings device = .ok p) :
    p.cutting.chunkSamples = max settings.stream.chunkSamples 1 := by
  obtain ⟨-, -, -, hcutting⟩ := plan_eq_ok_iff.mp h
  rw [planCutting] at hcutting
  split at hcutting
  · cases hcutting
  · dsimp only at hcutting
    split at hcutting
    · cases hcutting
    · rw [← Except.ok.inj hcutting]

theorem blockSize_of_plan (h : plan settings device = .ok p) :
    p.cutting.blockSize = settings.input.sampleSize * max settings.stream.chunkSamples 1 := by
  rw [Cutting.blockSize, unitSize_of_plan h, chunkSamples_of_plan h]

/-- What comes of a plan is what comes of its consumer. -/
theorem Plan.run_drain (hroom : p.cutting.blockSize ≤ memoryLimit) (trigger : Option Nat)
    (source : Source) (sink : Sink) {feeds : List Feed}
    (hfeeds : (Reader.run p.cutting { source, trigger }).1 = feeds)
    {result : Except Failure Unit} {last : Consumer}
    (hdrain : Consumer.drain p.cutting.unitSize feeds { session := p.session, sink }
      = (result, last)) :
    (p.run trigger source sink).sink = last.sink ∧
      (p.run trigger source sink).result = result.map fun _ => last.stats := by
  rw [Plan.run, Reader.feed?_of_room hroom]
  simp only [hfeeds, hdrain]
  cases result <;> exact ⟨rfl, rfl⟩

/-- A plan whose consumer ends well ends well, and has told everything. -/
theorem Plan.run_of_drain_ok (hroom : p.cutting.blockSize ≤ memoryLimit) {trigger : Option Nat}
    {source : Source} {sink : Sink} {feeds : List Feed} {notices : List Notice} {k : Consumer}
    (hreader : Reader.run p.cutting { source, trigger } = (feeds, notices))
    (hdrain : Consumer.drain p.cutting.unitSize feeds { session := p.session, sink }
      = (.ok (), k)) :
    p.run trigger source sink = {
      result := .ok k.stats
      notices := notices ++ [.encoded k.stats]
      sink := k.sink } := by
  rw [Plan.run, Reader.feed?_of_room hroom, hreader]
  simp only [hdrain]

/-- **A run reports the layout of its capture.** -/
theorem run_reports {source : Source} {sink : Sink} (hplan : plan settings device = .ok p)
    (hroom : p.cutting.blockSize ≤ memoryLimit) (hfault : source.fault = none)
    (hsink : sink.NeverFails) :
    (run settings device source sink).Reports sink
      (layout device settings.output.lineWidth
        (recordingOf settings.input.sampleSize settings.input.triggerAt source.bytes)) := by
  obtain ⟨e, hencoder, hfollows⟩ := encoder_of_plan hplan
  have houtcome := Plan.run_outcome hencoder hfollows hroom hfault hsink settings.input.triggerAt
  rw [report_directPackets p.cutting.unitSize_pos hfollows, unitSize_of_plan hplan] at houtcome
  rw [run, hplan]
  exact Run.reports_of_outcome houtcome

end Stream

end CaptureReport
