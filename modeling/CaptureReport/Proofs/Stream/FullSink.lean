import CaptureReport.Proofs.Stream.Reports

/-!
# Runs to a sink that fails

A sink may be full before the report is, and it may fail to be flushed. Neither spoils what it has
received: that is the front part of the report, up to the last byte there was room for, however the
report came in texts and the texts in writes. And neither goes unnoticed: the run fails with what the
sink said. A sink that has room for the report to the last byte is not full.

## Main results

* `Run.cutAt_of_flushed`: what the consumer made of its feeds, said of the run.
* `run_cut`: what comes of a run.
-/

namespace CaptureReport.Stream

open Report

/-- Bytes that there is room for are all taken. -/
theorem Consumer.take_bytesOf {report : String} {room : Nat} (h : report.utf8ByteSize ≤ room) :
    (bytesOf report).take room = bytesOf report :=
  List.take_of_length_le h

/-- A run whose report is **cut** where the sink is full, if it is longer than that. Then the run
fails with what the sink said, and the sink is not flushed; otherwise the sink is flushed once,
behind the last byte, and only a flush that fails makes the run fail. -/
structure Run.CutAt (r : Run) (sink : Sink) (room : Nat) (report : String) : Prop where
  received : r.sink.received.toList
    = sink.received.toList ++ (Consumer.bytesOf report).take room
  full : room < report.utf8ByteSize →
    r.sink.flushedAt = sink.flushedAt ∧
    ∃ failure, r.result = .error failure ∧ failure.message = "failed to write report" ∧
      failure.causes = [sink.full.getD "failed to write whole buffer"]
  flushed : report.utf8ByteSize ≤ room →
    r.sink.flushedAt = sink.flushedAt.push (sink.received.size + report.utf8ByteSize) ∧
    match sink.flushFault with
    | none => ∃ stats, r.result = .ok stats ∧ stats.bytesOut = report.utf8ByteSize
    | some message => ∃ failure, r.result = .error failure ∧
        failure.message = "failed to flush report" ∧ failure.causes = [message]

/-- A run is cut as the report of its consumer is. -/
theorem Run.cutAt_of_flushed {sink : Sink} {room : Nat} {report : String} {stats : Stats}
    {result : Except Failure Unit} {last : Consumer}
    (h : Consumer.Flushed sink report stats (result, last)) (hlimit : sink.room = some room)
    (hstats : stats.bytesOut = report.utf8ByteSize) {r : Run} (hsink : r.sink = last.sink)
    (hresult : r.result = result.map fun _ => last.stats) : r.CutAt sink room report := by
  have hfitsIff : sink.Fits (Consumer.bytesOf report) ↔ report.utf8ByteSize ≤ room := by
    rw [Sink.Fits, hlimit, Consumer.length_bytesOf]
    simp
  cases h with
  | full hfits hreceived hflushed =>
    have hlong : ¬ report.utf8ByteSize ≤ room := fun hle => hfits (hfitsIff.mpr hle)
    rw [Sink.fitting, hlimit, ← hsink] at hreceived
    rw [← hsink] at hflushed
    exact ⟨hreceived, fun _ => ⟨hflushed, _, hresult, rfl, rfl⟩, fun hle => absurd hle hlong⟩
  | failed hfits hreceived hflushed hfault =>
    have hle := hfitsIff.mp hfits
    rw [← hsink, ← Consumer.take_bytesOf hle] at hreceived
    rw [← hsink] at hflushed
    refine ⟨hreceived, fun hlt => absurd hle (Nat.not_le.mpr hlt), fun _ => ⟨hflushed, ?_⟩⟩
    rw [hfault]
    exact ⟨_, hresult, rfl, rfl⟩
  | done hfits hreceived hflushed hfault hlast =>
    have hle := hfitsIff.mp hfits
    rw [← hsink, ← Consumer.take_bytesOf hle] at hreceived
    rw [← hsink] at hflushed
    refine ⟨hreceived, fun hlt => absurd hle (Nat.not_le.mpr hlt), fun _ => ⟨hflushed, ?_⟩⟩
    rw [hfault]
    exact ⟨_, hresult, by rw [hlast, hstats]⟩

/-- **A run whose sink may fail.** There is one report that the run brings out to every sink that
never fails; a steady sink cuts it where it is full, and whatever goes wrong is reported. -/
theorem run_cut {settings : Settings} {device : Device} {p : Plan} {source : Source} {sink : Sink}
    {room : Nat} (hplan : plan settings device = .ok p) (hroom : p.cutting.blockSize ≤ memoryLimit)
    (hfault : source.fault = none) (hsteady : sink.Steady) (hlimit : sink.room = some room) :
    ∃ report,
      (∀ other : Sink, other.NeverFails →
        (run settings device source other).Reports other report) ∧
      (run settings device source sink).CutAt sink room report := by
  obtain ⟨e, hencoder, hfollows⟩ := encoder_of_plan hplan
  obtain ⟨hcarries, -⟩ := Reader.run_spec (c := p.cutting)
    (r := { source, trigger := settings.input.triggerAt }) (fun k _ => Nat.zero_le k) hfault
  have hreport := hcarries.report_eq hfollows
  rw [report_directPackets p.cutting.unitSize_pos hfollows] at hreport
  refine ⟨_, fun other hother => run_reports hplan hroom hfault hother, ?_⟩
  rw [← unitSize_of_plan hplan]
  have hflushed := Consumer.drain_steady (k := { session := p.session, sink })
    (Nat.ne_of_gt p.cutting.unitSize_pos) hencoder hsteady hcarries.open_.1
  rw [hreport] at hflushed
  obtain ⟨hsink, hresult⟩ := Plan.run_drain hroom settings.input.triggerAt source sink rfl rfl
  rw [run, hplan]
  exact Run.cutAt_of_flushed hflushed hlimit (Nat.zero_add _) hsink hresult

/-- A sink that takes one byte and three bytes by turns, and is full after twenty. -/
theorem run_cut_twenty :
    let device : Device := { channels := [{ index := 0, name := "D0" }] }
    let settings : Settings := { stream := { chunkSamples := 2 } }
    let source : Source := .ofBytes [1, 0, 1, 1, 0]
    let sink : Sink :=
      { perWrite := some 3, pace := fun n => if n % 2 = 0 then some 0 else none, limit := some 20,
        full := some "no space left", flushFault := some "broken pipe" }
    ∃ p, plan settings device = .ok p ∧ p.cutting.blockSize ≤ memoryLimit ∧
      source.fault = none ∧ sink.Steady ∧ sink.room = some 20 ∧
      ∃ report,
        (∀ other : Sink, other.NeverFails →
          (run settings device source other).Reports other report) ∧
        (run settings device source sink).CutAt sink 20 report := by
  intro device settings source sink
  obtain ⟨p, hplan⟩ : ∃ p, plan settings device = .ok p := exists_plan (by decide)
  have hroom : p.cutting.blockSize ≤ memoryLimit := by
    rw [blockSize_of_plan hplan]
    decide
  have hfault : source.fault = none := rfl
  have hsteady : sink.Steady := by
    rw [Sink.Steady]
    decide
  have hlimit : sink.room = some 20 := rfl
  exact ⟨p, hplan, hroom, hfault, hsteady, hlimit, run_cut hplan hroom hfault hsteady hlimit⟩

end CaptureReport.Stream
