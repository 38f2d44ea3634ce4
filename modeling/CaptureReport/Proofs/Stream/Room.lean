import CaptureReport.Proofs.Stream.Reports

/-!
# Room for a block

A run refuses settings whose blocks are too large before it touches the sink. The check is that the
size of a block fits in a word, but memory gives out only half as many bytes at once. So there are
three kinds of sizes. A block that fits in memory never fails for want of room; one that does not
fit in a word is refused up front; and a block **in between** passes the check and has no room all
the same. The run fails then as well, with nothing written, but only behind a flush of the sink, and
if the flush fails it is the flush that the run fails with.

Settings that one of the earlier checks turns down are refused up front, whatever the size.

## Main results

* `exists_plan_iff`: the checks that settings have to pass.
* `Consumer.underWay_of_drain`: a consumer never fails for want of room, or in any other way that
  can be told up front.
* `Plan.run_of_noRoom`: what comes of a plan whose blocks do not fit in memory.
* `run_by_blockSize`: what comes of a run, by the size of a block.
* `received_of_isUpFront`: a run that fails up front writes nothing.
-/

namespace CaptureReport

/-- The bytes in a block that settings ask for, full or too large to be. -/
def Settings.blockSize (settings : Settings) : Nat :=
  settings.input.sampleSize * max settings.stream.chunkSamples 1

namespace Stream

/-- Settings are **admitted** if they pass the checks that come before that of a block's size. -/
def Admitted (settings : Settings) (device : Device) : Prop :=
  ∃ format session, Format.find? settings.output.format = some format ∧
    Session.start format (sessionOptions settings.output) (some device) = .ok session ∧
    settings.input.sampleSize ≠ 0

/-- A failure is **up front** if it can come up before a byte of the capture is read. -/
def Failure.isUpFront : Failure → Bool
  | unknownFormat _ | setUp _ | emptySample | packetTooLarge _ _ | noRoom => true
  | refused _ | read _ | write _ | flush _ => false

variable {settings : Settings} {device : Device} {p : Plan}

/-! ### The checks -/

theorem planCutting_of_lt (hsize : settings.input.sampleSize ≠ 0)
    (hfits : settings.blockSize < Text.wordLimit) : ∃ c, planCutting settings = .ok c := by
  rw [Settings.blockSize] at hfits
  rw [planCutting, dif_neg hsize]
  exact ⟨_, if_neg (Nat.not_le.mpr hfits)⟩

theorem planCutting_of_le (hsize : settings.input.sampleSize ≠ 0)
    (hover : Text.wordLimit ≤ settings.blockSize) :
    planCutting settings = .error
      (.packetTooLarge (max settings.stream.chunkSamples 1) settings.input.sampleSize) := by
  rw [Settings.blockSize] at hover
  rw [planCutting, dif_neg hsize]
  exact if_pos hover

/-- **Settings have a plan exactly if they pass all checks**, the last of which is that of a block's
size. -/
theorem exists_plan_iff :
    (∃ p, plan settings device = .ok p) ↔
      Admitted settings device ∧ settings.blockSize < Text.wordLimit := by
  constructor
  · rintro ⟨p, hplan⟩
    obtain ⟨format, hformat, hsession, hcutting⟩ := plan_eq_ok_iff.mp hplan
    have hunit := unitSize_of_planCutting hcutting
    have hsize : settings.input.sampleSize ≠ 0 := hunit ▸ Nat.ne_of_gt p.cutting.unitSize_pos
    refine ⟨⟨format, p.session, hformat, hsession, hsize⟩, ?_⟩
    by_contra hover
    rw [planCutting_of_le hsize (Nat.not_lt.mp hover)] at hcutting
    cases hcutting
  · rintro ⟨⟨format, session, hformat, hsession, hsize⟩, hfits⟩
    obtain ⟨c, hcutting⟩ := planCutting_of_lt hsize hfits
    exact ⟨⟨session, c⟩, plan_eq_ok_iff.mpr ⟨format, hformat, hsession, hcutting⟩⟩

/-- A block that does not fit in a word is refused if the earlier checks have nothing to say. -/
theorem plan_of_overflow (hadmitted : Admitted settings device)
    (hover : Text.wordLimit ≤ settings.blockSize) :
    plan settings device = .error
      (.packetTooLarge (max settings.stream.chunkSamples 1) settings.input.sampleSize) := by
  obtain ⟨format, session, hformat, hsession, hsize⟩ := hadmitted
  rw [plan]
  simp only [hformat, hsession, planCutting_of_le hsize hover]

/-- No check finds that there is no room. -/
theorem plan_ne_noRoom (settings : Settings) (device : Device) :
    plan settings device ≠ .error .noRoom := by
  have hcutting : planCutting settings ≠ .error .noRoom := by
    rw [planCutting]
    split
    · simp
    · dsimp only
      split <;> simp
  rw [plan]
  split
  · simp
  · split
    · simp
    · split
      · rename_i failure hfailure
        intro heq
        exact hcutting (hfailure.trans (congrArg _ (Except.error.inj heq)))
      · simp

/-! ### The consumer -/

namespace Consumer

theorem underWay_of_write {k : Consumer} {text : Option String} {failure : Failure}
    (h : (k.write text).1 = .error failure) : failure.isUpFront = false := by
  cases text with
  | none => cases h
  | some text =>
    rw [write] at h
    split at h
    · cases h
      rfl
    · cases h

theorem underWay_of_send {k : Consumer} {packet : Packet} {failure : Failure}
    (h : (k.send packet).1 = .error failure) : failure.isUpFront = false := by
  rw [send] at h
  split at h
  · cases h
    rfl
  · exact underWay_of_write h

theorem underWay_of_accept {unitSize : Nat} {k : Consumer} {feed : Feed} {failure : Failure}
    (h : (k.accept unitSize feed).1 = .error failure) : failure.isUpFront = false := by
  cases feed with
  | block data | trigger | finish => exact underWay_of_send h
  | failed message =>
    cases h
    rfl

/-- What a flush comes to: the sink has been flushed once more, and fails if it has a fault. -/
theorem flush_eq (k : Consumer) :
    k.flush = (match k.sink.flushFault with
        | none => .ok ()
        | some message => .error (.flush message),
      { k with sink :=
        { k.sink with flushedAt := k.sink.flushedAt.push k.sink.received.size } }) := by
  cases hfault : k.sink.flushFault <;> simp only [flush, Sink.flush, hfault]

/-- **A consumer fails under way only**, whatever it is fed. -/
theorem underWay_of_drain {unitSize : Nat} {feeds : List Feed} {k : Consumer} {failure : Failure}
    (h : (k.drain unitSize feeds).1 = .error failure) : failure.isUpFront = false := by
  induction feeds generalizing k with
  | nil =>
    rw [drain, flush_eq] at h
    dsimp only at h
    split at h
    · cases h
    · cases h
      rfl
  | cons feed feeds ih =>
    rw [drain] at h
    split at h
    · rename_i failure' k' haccept
      cases h
      exact underWay_of_accept (congrArg Prod.fst haccept)
    · exact ih h

end Consumer

/-! ### Runs -/

theorem run_of_ok (h : plan settings device = .ok p) (source : Source) (sink : Sink) :
    run settings device source sink = p.run settings.input.triggerAt source sink := by
  rw [run, h]

/-- Settings that are refused up front leave the source and the sink alone. -/
theorem run_of_error {failure : Failure} (h : plan settings device = .error failure)
    (source : Source) (sink : Sink) :
    run settings device source sink =
      { result := .error failure, sink, source := some source } := by
  rw [run, h]

/-- A plan that is carried out leaves the source to its reader. -/
theorem Plan.source_run (p : Plan) (trigger : Option Nat) (source : Source) (sink : Sink) :
    (p.run trigger source sink).source = none := by
  rw [Plan.run]
  cases Reader.feed? p.cutting { source, trigger } with
  | none =>
    dsimp only
    split <;> rfl
  | some fed =>
    dsimp only
    split <;> rfl

/-- A plan whose blocks fit in memory fails under way only. -/
theorem Plan.underWay_of_run (hroom : p.cutting.blockSize ≤ memoryLimit) {trigger : Option Nat}
    {source : Source} {sink : Sink} {failure : Failure}
    (h : (p.run trigger source sink).result = .error failure) : failure.isUpFront = false := by
  cases hdrain : Consumer.drain p.cutting.unitSize (Reader.run p.cutting { source, trigger }).1
      { session := p.session, sink } with
  | mk result last =>
    obtain ⟨-, hresult⟩ := p.run_drain hroom trigger source sink rfl hdrain
    rw [hresult] at h
    cases result with
    | error cause =>
      cases h
      exact Consumer.underWay_of_drain (congrArg Prod.fst hdrain)
    | ok done => cases h

/-- A plan whose blocks fit in memory does not fail for want of room. -/
theorem Plan.run_ne_noRoom (hroom : p.cutting.blockSize ≤ memoryLimit) (trigger : Option Nat)
    (source : Source) (sink : Sink) : (p.run trigger source sink).result ≠ .error .noRoom :=
  fun h => nomatch Plan.underWay_of_run hroom h

/-- **A plan whose blocks do not fit in memory** comes to nothing but a flush of the sink. -/
theorem Plan.run_of_noRoom (hover : memoryLimit < p.cutting.blockSize) (trigger : Option Nat)
    (source : Source) (sink : Sink) :
    (p.run trigger source sink).result
        = .error (match sink.flushFault with
          | none => .noRoom
          | some message => .flush message) ∧
      (p.run trigger source sink).sink
        = { sink with flushedAt := sink.flushedAt.push sink.received.size } := by
  rw [Plan.run, Reader.feed?_of_noRoom hover]
  simp only [Consumer.drain, Consumer.flush_eq]
  cases sink.flushFault <;> exact ⟨rfl, rfl⟩

/-- **A run that fails up front writes nothing.** -/
theorem received_of_isUpFront {source : Source} {sink : Sink} {failure : Failure}
    (h : (run settings device source sink).result = .error failure)
    (hupFront : failure.isUpFront = true) :
    (run settings device source sink).sink.received = sink.received := by
  cases hplan : plan settings device with
  | error found => rw [run_of_error hplan]
  | ok p =>
    rw [run_of_ok hplan] at h ⊢
    by_cases hroom : p.cutting.blockSize ≤ memoryLimit
    · rw [Plan.underWay_of_run hroom h] at hupFront
      cases hupFront
    · rw [(p.run_of_noRoom (Nat.not_le.mp hroom) _ _ _).2]

/-- **What comes of a run, by the size of a block.** It fails for want of room exactly if the size
fits in a word and not in memory, and the sink can be flushed; settings that are refused up front
leave the sink alone. -/
theorem run_by_blockSize (settings : Settings) (device : Device) (source : Source) (sink : Sink) :
    (settings.blockSize ≤ memoryLimit → (run settings device source sink).result ≠ .error .noRoom) ∧
    (Admitted settings device → memoryLimit < settings.blockSize →
      settings.blockSize < Text.wordLimit →
      (run settings device source sink).result = .error (match sink.flushFault with
        | none => .noRoom
        | some message => .flush message) ∧
      (run settings device source sink).sink
        = { sink with flushedAt := sink.flushedAt.push sink.received.size }) ∧
    (Admitted settings device → Text.wordLimit ≤ settings.blockSize →
      (run settings device source sink).result = .error
        (.packetTooLarge (max settings.stream.chunkSamples 1) settings.input.sampleSize) ∧
      (run settings device source sink).sink = sink) ∧
    (¬ Admitted settings device →
      (∃ failure, (run settings device source sink).result = .error failure ∧
        failure ≠ .noRoom) ∧
      (run settings device source sink).sink = sink) := by
  refine ⟨?_, ?_, ?_, ?_⟩
  · intro hroom
    cases hplan : plan settings device with
    | error failure =>
      rw [run_of_error hplan]
      rintro ⟨⟩
      exact plan_ne_noRoom settings device hplan
    | ok p =>
      rw [run_of_ok hplan]
      exact p.run_ne_noRoom ((blockSize_of_plan hplan).trans_le hroom) _ _ _
  · intro hadmitted hover hfits
    obtain ⟨p, hplan⟩ := exists_plan_iff.mpr ⟨hadmitted, hfits⟩
    rw [run_of_ok hplan]
    exact p.run_of_noRoom (hover.trans_eq (blockSize_of_plan hplan).symm) _ _ _
  · intro hadmitted hover
    rw [run_of_error (plan_of_overflow hadmitted hover)]
    exact ⟨rfl, rfl⟩
  · intro hnot
    cases hplan : plan settings device with
    | error failure =>
      rw [run_of_error hplan]
      refine ⟨⟨failure, rfl, ?_⟩, rfl⟩
      rintro rfl
      exact plan_ne_noRoom settings device hplan
    | ok p => exact absurd (exists_plan_iff.mp ⟨p, hplan⟩).1 hnot

/-- Blocks as large as memory gives out, twice as large, and too large for a word, and samples that
are no byte wide. -/
theorem run_by_blockSize_limits :
    let device : Device := {}
    let source : Source := .ofBytes [1, 2, 3]
    let sink : Sink := {}
    let most : Settings :=
      { input := { unitSize := some memoryLimit }, stream := { chunkSamples := 0 } }
    let between : Settings :=
      { input := { unitSize := some 2 }, stream := { chunkSamples := memoryLimit } }
    let beyond : Settings :=
      { input := { unitSize := some (memoryLimit + 1) }, stream := { chunkSamples := 2 } }
    let empty : Settings := { input := { unitSize := some 0 } }
    most.blockSize ≤ memoryLimit ∧ (run most device source sink).result ≠ .error .noRoom ∧
      Admitted between device ∧ memoryLimit < between.blockSize ∧
      between.blockSize < Text.wordLimit ∧
      (run between device source sink).result = .error .noRoom ∧
      (run between device source sink).sink = { sink with flushedAt := #[0] } ∧
      Admitted beyond device ∧ Text.wordLimit ≤ beyond.blockSize ∧
      (run beyond device source sink).result = .error (.packetTooLarge 2 (memoryLimit + 1)) ∧
      (run beyond device source sink).sink = sink ∧
      ¬ Admitted empty device ∧ (run empty device source sink).sink = sink := by
  intro device source sink most between beyond empty
  have hmost : most.blockSize ≤ memoryLimit := by decide
  have hbetween : Admitted between device := ⟨.hex, _, rfl, rfl, by decide⟩
  have habove : memoryLimit < between.blockSize := by decide
  have hbelow : between.blockSize < Text.wordLimit := by decide
  have hover : Admitted beyond device := ⟨.hex, _, rfl, rfl, by decide⟩
  have hword : Text.wordLimit ≤ beyond.blockSize := by decide
  have hempty : ¬ Admitted empty device := by
    rintro ⟨_, _, _, _, hsize⟩
    exact hsize rfl
  obtain ⟨hroom, -, -, -⟩ := run_by_blockSize most device source sink
  obtain ⟨-, hwindow, -, -⟩ := run_by_blockSize between device source sink
  obtain ⟨-, -, hlarge, -⟩ := run_by_blockSize beyond device source sink
  obtain ⟨-, -, -, hrefused⟩ := run_by_blockSize empty device source sink
  obtain ⟨hresult, hsink⟩ := hwindow hbetween habove hbelow
  obtain ⟨hresult', hsink'⟩ := hlarge hover hword
  exact ⟨hmost, hroom hmost, hbetween, habove, hbelow, hresult, hsink, hover, hword, hresult',
    hsink', hempty, (hrefused hempty).2⟩

/-- A block of one sample, a byte larger than memory gives out, passes every check, and the run
fails for want of room, behind a flush. -/
theorem no_room_for_checked_block :
    let settings : Settings :=
      { input := { channels := 1, unitSize := some (memoryLimit + 1) },
        stream := { chunkSamples := 1 } }
    let r := run settings settings.input.device {} {}
    (∃ p, plan settings settings.input.device = .ok p ∧ memoryLimit < p.cutting.blockSize) ∧
      r.result = .error .noRoom ∧ Failure.noRoom.message = "reader thread panicked" ∧
      r.sink.flushes = 1 := by
  intro settings r
  have hadmitted : Admitted settings settings.input.device := ⟨.hex, _, rfl, rfl, by decide⟩
  obtain ⟨p, hplan⟩ := exists_plan_iff.mpr ⟨hadmitted, by decide⟩
  have hover : memoryLimit < p.cutting.blockSize := by
    rw [blockSize_of_plan hplan]
    decide
  obtain ⟨hresult, hsink⟩ := p.run_of_noRoom hover none {} {}
  have hr : r = p.run none {} {} := run_of_ok hplan {} {}
  refine ⟨⟨p, hplan, hover⟩, ?_, rfl, ?_⟩
  · rw [hr, hresult]
  · rw [hr, hsink]
    rfl

end Stream

end CaptureReport
