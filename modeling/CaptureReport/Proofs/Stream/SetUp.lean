import CaptureReport.Proofs.Stream.Relay
import CaptureReport.Proofs.Stream.Room

/-!
# Setting a run up

Before a run begins, its settings are checked for **faults**: a format that is not registered, lines
that are no sample wide, samples that are no byte wide, and blocks whose size does not fit in a word.
The faults are looked for in this order, and the first one that is found is what the run fails with.
It is found from the settings alone: the source is not read, the sink is left as it was, and neither
a reader nor a consumer ever comes to be.

The width of a line reaches the encoder as a text, and a text is read as a width if it spells a
positive number that fits in a word. A width that was written spells itself, so an encoder has lines
of the width that was asked for.

## Main results

* `start_of_lineWidth`: the session that settings ask for, and the width of its lines.
* `parseWidth_accepts_spelled`: which texts are read as a width, and what comes of a width that is
  handed on as a text.
* `plan_cases`: the checks, by the first fault.
* `run_fails_by_first_fault`: what that means for runs.
-/

namespace CaptureReport.Stream

open Report

variable {settings : Settings} {device : Device}

/-! ### The session that settings ask for -/

/-- The settings ask for no option that the format does not take, so that starting a session comes
to making an encoder. -/
theorem start_sessionOptions (output : OutputSettings) (device : Device) :
    Session.start .hex (sessionOptions output) (some device)
      = (Encoder.ofDevice device ((sessionOptions output).lookup "width")).map fun e =>
        { format := .hex, encoder := some e } := by
  have hnone : (sessionOptions output).find?
      (fun option => !Format.hex.options.contains option.1) = none := by
    rw [sessionOptions]
    cases output.width <;> rfl
  rw [Session.start]
  simp only [hnone]
  cases Encoder.ofDevice device ((sessionOptions output).lookup "width") <;> rfl

/-- Without a width, or with a positive one that fits in a word, there is a session, and its lines
have the width that was asked for. -/
theorem start_of_lineWidth {output : OutputSettings} (device : Device)
    (hpos : output.width ≠ some 0) (hfits : ∀ n, output.width = some n → n < Text.wordLimit) :
    ∃ session e, Session.start .hex (sessionOptions output) (some device) = .ok session ∧
      session.encoder = some e ∧ e.width = output.lineWidth := by
  have hwidth : chosenWidth ((sessionOptions output).lookup "width") = .ok output.lineWidth := by
    rw [sessionOptions, OutputSettings.lineWidth]
    cases hn : output.width with
    | none => rfl
    | some n =>
      have hne : n ≠ 0 := fun hzero => hpos (hzero ▸ hn)
      exact (chosenWidth_repr n).trans (parseWidth_repr (Nat.pos_of_ne_zero hne) (hfits n hn))
  obtain ⟨e, hnew, hfollows⟩ := Encoder.exists_ofDevice device hwidth
  rw [start_sessionOptions, hnew]
  exact ⟨_, e, rfl, rfl, hfollows.width_eq⟩

/-- Lines that are no sample wide are refused. -/
theorem start_of_width_zero {output : OutputSettings} (device : Device)
    (hzero : output.width = some 0) :
    Session.start .hex (sessionOptions output) (some device) = .error (.badWidth "0") := by
  have hwidth : chosenWidth ((sessionOptions output).lookup "width") = .error (.badWidth "0") := by
    rw [sessionOptions, hzero]
    rfl
  rw [start_sessionOptions, Encoder.ofDevice_eq_error device hwidth]
  rfl

/-- **A text is read as a width exactly if it spells one**, a positive number that fits in a word;
any other text is refused. So a width that is handed on as a text is read back, by itself and by the
session of a run. -/
theorem parseWidth_accepts_spelled (text : String) :
    (∀ n, parseWidth text = .ok n ↔ Text.Spells text.toList n ∧ 1 ≤ n ∧ n < 2 ^ 64) ∧
    ((∀ n, parseWidth text ≠ .ok n) → parseWidth text = .error (.badWidth text)) ∧
    (Refusal.badWidth text).kind = .configuration ∧
    ∀ n, 1 ≤ n → n < 2 ^ 64 → parseWidth (toString n) = .ok n ∧
      ∀ (settings : Settings) (device : Device), settings.output.width = some n →
        (∃ session e, Session.start .hex (sessionOptions settings.output) (some device)
            = .ok session ∧ session.encoder = some e ∧ e.width = n) ∧
        ∀ p, plan settings device = .ok p → ∃ e, p.session.encoder = some e ∧ e.width = n := by
  refine ⟨fun n => parseWidth_eq_ok_iff_spells, parseWidth_eq_error, rfl, fun n hpos hfits => ?_⟩
  refine ⟨parseWidth_repr hpos hfits, fun settings device hwidth => ?_⟩
  have hline : settings.output.lineWidth = n := by
    rw [OutputSettings.lineWidth, hwidth, Option.getD_some]
  refine ⟨?_, fun p hplan => ?_⟩
  · rw [← hline]
    apply start_of_lineWidth device
    · rw [hwidth]
      rintro ⟨⟩
      exact absurd hpos (by decide)
    · intro m hm
      rw [hwidth] at hm
      obtain rfl := Option.some.inj hm
      exact hfits
  · obtain ⟨e, hencoder, hfollows⟩ := encoder_of_plan hplan
    exact ⟨e, hencoder, hfollows.width_eq.trans hline⟩

/-- A width with a sign, zeros in front and blanks at both ends, and one that a run is given. -/
theorem parseWidth_accepts_spelled_signed :
    let device : Device := { channels := [{ index := 0, name := "D0" }] }
    let settings : Settings := { output := { width := some 12 } }
    parseWidth "\u00a0+0012 \n" = .ok 12 ∧
      ∃ p, plan settings device = .ok p ∧ ∃ e, p.session.encoder = some e ∧ e.width = 12 := by
  intro device settings
  have hspelled : Text.Spells "\u00a0+0012 \n".toList 12 :=
    ⟨['\u00a0'], ['+'], ['0', '0', '1', '2'], [' ', '\n'], rfl, List.all_eq_true.mp rfl,
      List.all_eq_true.mp rfl, .inr rfl, by decide, List.all_eq_true.mp rfl, rfl⟩
  obtain ⟨haccepts, -, -, hwritten⟩ := parseWidth_accepts_spelled "\u00a0+0012 \n"
  obtain ⟨p, hplan⟩ : ∃ p, plan settings device = .ok p := exists_plan (by decide)
  exact ⟨(haccepts 12).mpr ⟨hspelled, by decide⟩, p, hplan,
    ((hwritten 12 (by decide) (by decide)).2 settings device rfl).2 p hplan⟩

/-! ### Faults -/

/-- What settings can be at **fault** with. -/
inductive Fault
  | format
  | width
  | sampleSize
  | blockSize
  deriving DecidableEq, Repr

namespace Fault

/-- The faults in the order in which they are looked for. -/
def all : List Fault :=
  [format, width, sampleSize, blockSize]

/-- Whether settings have a fault. -/
def IsIn (settings : Settings) : Fault → Prop
  | format => settings.output.format ∉ Format.all.map Format.id
  | width => settings.output.width = some 0
  | sampleSize => settings.input.sampleSize = 0
  | blockSize => Text.wordLimit ≤ settings.input.sampleSize * max settings.stream.chunkSamples 1

instance (settings : Settings) : DecidablePred (IsIn settings)
  | format => inferInstanceAs (Decidable (_ ∉ _))
  | width => inferInstanceAs (Decidable (_ = _))
  | sampleSize => inferInstanceAs (Decidable (_ = _))
  | blockSize => inferInstanceAs (Decidable (_ ≤ _))

/-- What settings with a fault fail with. -/
def failure (settings : Settings) : Fault → Failure
  | format => .unknownFormat settings.output.format
  | width => .setUp (.badWidth "0")
  | sampleSize => .emptySample
  | blockSize =>
    .packetTooLarge (max settings.stream.chunkSamples 1) settings.input.sampleSize

/-- What is told about a fault, the message and the ones below it. -/
def messages (settings : Settings) : Fault → List String
  | format => ["unknown output format " ++ Text.quote settings.output.format]
  | width =>
    ["failed to set up output",
      "invalid configuration: samples per line must be a positive integer, got \"0\""]
  | sampleSize => ["unitsize must be at least one byte per sample"]
  | blockSize =>
    ["packet of " ++ toString (max settings.stream.chunkSamples 1) ++ " samples of " ++
      toString settings.input.sampleSize ++ " bytes is too large"]

theorem mem_all (fault : Fault) : fault ∈ all := by
  cases fault <;> decide

/-- The message of a failure is the one for its fault. -/
theorem messages_failure (settings : Settings) (fault : Fault) :
    (fault.failure settings).message :: (fault.failure settings).causes
      = fault.messages settings := by
  cases fault with
  | width =>
    have hcause : (Refusal.badWidth "0").message
        = "invalid configuration: samples per line must be a positive integer, got \"0\"" := by
      decide
    rw [messages, ← hcause]
    rfl
  | format | sampleSize | blockSize => rfl

end Fault

end CaptureReport.Stream

namespace CaptureReport

/-- The first fault of settings, if they have one. -/
def Settings.fault? (settings : Settings) : Option Stream.Fault :=
  Stream.Fault.all.find? (·.IsIn settings)

namespace Stream

open Report

variable {settings : Settings} {device : Device}

theorem exists_fault_iff :
    (∃ fault, settings.fault? = some fault) ↔ ∃ fault : Fault, fault.IsIn settings := by
  rw [← Option.isSome_iff_exists, Settings.fault?, List.find?_isSome]
  constructor
  · rintro ⟨fault, -, hfault⟩
    exact ⟨fault, of_decide_eq_true hfault⟩
  · rintro ⟨fault, hfault⟩
    exact ⟨fault, fault.mem_all, decide_eq_true hfault⟩

/-! ### The checks -/

/-- A format that is registered is found. -/
theorem find?_of_not_isIn (h : ¬ Fault.format.IsIn settings) :
    Format.find? settings.output.format = some .hex := by
  obtain ⟨format, -, hid⟩ := List.mem_map.mp (not_not.mp h)
  cases format
  exact Format.find?_eq_some_iff.mpr hid

theorem find?_of_isIn (h : Fault.format.IsIn settings) :
    Format.find? settings.output.format = none := by
  refine Option.eq_none_iff_forall_ne_some.mpr fun format hfind => h ?_
  rw [← Format.find?_eq_some_iff.mp hfind]
  exact List.mem_map_of_mem format.mem_all

/-- **The checks go by the first fault.** Without one there is a plan. -/
theorem plan_cases (hword : ∀ n, settings.output.width = some n → n < Text.wordLimit)
    (device : Device) :
    (∃ fault, settings.fault? = some fault ∧
      plan settings device = .error (fault.failure settings)) ∨
    settings.fault? = none ∧ ∃ p, plan settings device = .ok p := by
  rw [Settings.fault?, Fault.all]
  by_cases hformat : Fault.format.IsIn settings
  · refine .inl ⟨.format, List.find?_cons_of_pos (decide_eq_true hformat), ?_⟩
    rw [plan, find?_of_isIn hformat]
    rfl
  have hfind := find?_of_not_isIn hformat
  rw [List.find?_cons_of_neg (by simpa using hformat)]
  by_cases hwidth : Fault.width.IsIn settings
  · refine .inl ⟨.width, List.find?_cons_of_pos (decide_eq_true hwidth), ?_⟩
    rw [plan, hfind]
    simp only [start_of_width_zero device hwidth]
    rfl
  obtain ⟨session, -, hsession, -⟩ := start_of_lineWidth device hwidth hword
  rw [List.find?_cons_of_neg (by simpa using hwidth)]
  by_cases hsize : Fault.sampleSize.IsIn settings
  · refine .inl ⟨.sampleSize, List.find?_cons_of_pos (decide_eq_true hsize), ?_⟩
    have hcutting : planCutting settings = .error .emptySample := dif_pos hsize
    rw [plan, hfind]
    simp only [hsession, hcutting]
    rfl
  have hadmitted : Admitted settings device := ⟨.hex, session, hfind, hsession, hsize⟩
  rw [List.find?_cons_of_neg (by simpa using hsize)]
  by_cases hblock : Fault.blockSize.IsIn settings
  · exact .inl ⟨.blockSize, List.find?_cons_of_pos (decide_eq_true hblock),
      plan_of_overflow hadmitted hblock⟩
  · rw [List.find?_cons_of_neg (by simpa using hblock)]
    exact .inr ⟨rfl, exists_plan_iff.mpr ⟨hadmitted, Nat.not_le.mp hblock⟩⟩

/-! ### Runs -/

/-- A failure is **of the settings** if one of the checks brings it up. -/
def Failure.isOfSettings : Failure → Bool
  | unknownFormat _ | setUp _ | emptySample | packetTooLarge _ _ => true
  | refused _ | read _ | write _ | flush _ | noRoom => false

theorem Failure.isUpFront_of_isOfSettings {failure : Failure}
    (h : failure.isOfSettings = true) : failure.isUpFront = true := by
  cases failure <;> first | rfl | cases h

theorem Fault.isOfSettings_failure (fault : Fault) (settings : Settings) :
    (fault.failure settings).isOfSettings = true := by
  cases fault <;> rfl

/-- The **relays** of a run, that is, the states that its reader and its consumer can come to beside
each other. They begin with a plan whose blocks fit in memory, and nothing is read from the source
or given to the sink but in their steps. -/
def Relays (settings : Settings) (device : Device) (source : Source) (sink : Sink) (s : Relay) :
    Prop :=
  ∃ p, plan settings device = .ok p ∧ p.cutting.blockSize ≤ memoryLimit ∧
    Relay.Reaches p.cutting (max settings.stream.queueDepth 1)
      (p.relay settings.input.triggerAt source sink) s

/-- Once the settings have passed the checks, a run does not fail because of them. -/
theorem Plan.not_isOfSettings_of_run {p : Plan} {trigger : Option Nat} {source : Source}
    {sink : Sink} {failure : Failure} (h : (p.run trigger source sink).result = .error failure) :
    failure.isOfSettings = false := by
  by_cases hroom : p.cutting.blockSize ≤ memoryLimit
  · have hunderWay := p.underWay_of_run hroom h
    by_contra hof
    rw [Failure.isUpFront_of_isOfSettings (by simpa using hof)] at hunderWay
    cases hunderWay
  · rw [(p.run_of_noRoom (Nat.not_le.mp hroom) _ _ _).1] at h
    cases hfault : sink.flushFault with
    | none | some message =>
      rw [hfault] at h
      cases h
      rfl

/-- **A run fails by the first fault of its settings**, whatever the source and the sink would have
done, and only if there is one. There is no notice then, the source and the sink are as they were,
and no reader and no consumer have come to be. Without a fault, a reader takes the source over. -/
theorem run_fails_by_first_fault
    (hword : ∀ n, settings.output.width = some n → n < Text.wordLimit) (device : Device)
    (source : Source) (sink : Sink) :
    ((∃ failure, (run settings device source sink).result = .error failure ∧
        failure.isOfSettings = true) ↔ ∃ fault : Fault, fault.IsIn settings) ∧
    (∀ fault, settings.fault? = some fault →
      run settings device source sink
        = { result := .error (fault.failure settings), sink, source := some source } ∧
      (fault.failure settings).message :: (fault.failure settings).causes
        = fault.messages settings ∧
      ∀ s, ¬ Relays settings device source sink s) ∧
    (settings.fault? = none → (run settings device source sink).source = none) := by
  have hcases := plan_cases hword device
  refine ⟨?_, fun fault hfault => ?_, fun hsound => ?_⟩
  · rw [← exists_fault_iff]
    rcases hcases with ⟨fault, hfault, hplan⟩ | ⟨hnone, p, hplan⟩
    · rw [run_of_error hplan]
      exact iff_of_true ⟨_, rfl, fault.isOfSettings_failure settings⟩ ⟨fault, hfault⟩
    · rw [run_of_ok hplan, hnone]
      refine iff_of_false ?_ (by simp)
      rintro ⟨failure, hresult, hof⟩
      rw [Plan.not_isOfSettings_of_run hresult] at hof
      cases hof
  · rcases hcases with ⟨found, hfound, hplan⟩ | ⟨hnone, -⟩
    · obtain rfl : found = fault := Option.some.inj (hfound.symm.trans hfault)
      refine ⟨run_of_error hplan source sink, found.messages_failure settings, ?_⟩
      rintro s ⟨p, hp, -⟩
      rw [hplan] at hp
      cases hp
    · rw [hnone] at hfault
      cases hfault
  · rcases hcases with ⟨found, hfound, -⟩ | ⟨-, p, hplan⟩
    · rw [hsound] at hfound
      cases hfound
    · rw [run_of_ok hplan, p.source_run]

/-- Settings with three faults, with the last of the faults, and with none, where neither the source
nor the sink would have been of use. -/
theorem run_fails_by_first_fault_of_three :
    let source : Source := .failing "no such capture"
    let sink : Sink := { limit := some 0, full := some "no space left" }
    let three : Settings :=
      { input := { unitSize := some 0 }, output := { format := "hex?", width := some 0 } }
    let last : Settings :=
      { input := { unitSize := some 2 }, output := { width := some 1 },
        stream := { chunkSamples := memoryLimit + 1 } }
    let sound : Settings := { output := { width := some (Text.wordLimit - 1) } }
    (∀ n, three.output.width = some n → n < Text.wordLimit) ∧ three.fault? = some .format ∧
      run three {} source sink
        = { result := .error (.unknownFormat "hex?"), sink, source := some source } ∧
      (∀ s, ¬ Relays three {} source sink s) ∧
      (∀ n, last.output.width = some n → n < Text.wordLimit) ∧ last.fault? = some .blockSize ∧
      run last {} source sink
        = { result := .error (.packetTooLarge (memoryLimit + 1) 2), sink, source := some source } ∧
      (∀ n, sound.output.width = some n → n < Text.wordLimit) ∧
      ¬ (∃ fault : Fault, fault.IsIn sound) ∧
      (¬ ∃ failure, (run sound {} source sink).result = .error failure ∧
        failure.isOfSettings = true) ∧
      (run sound {} source sink).source = none := by
  intro source sink three last sound
  have hthree : ∀ n, three.output.width = some n → n < Text.wordLimit := by
    rintro n ⟨⟩
    decide
  have hlast : ∀ n, last.output.width = some n → n < Text.wordLimit := by
    rintro n ⟨⟩
    decide
  have hnone : ∀ n, sound.output.width = some n → n < Text.wordLimit := by
    rintro n ⟨⟩
    decide
  have hformat : three.fault? = some .format := by decide
  have hblock : last.fault? = some .blockSize := by decide
  have hsound : ¬ ∃ fault : Fault, fault.IsIn sound := by
    rintro ⟨fault, hfault⟩
    revert hfault
    cases fault <;> decide
  obtain ⟨-, hfirst, -⟩ := run_fails_by_first_fault hthree {} source sink
  obtain ⟨-, hfirst', -⟩ := run_fails_by_first_fault hlast {} source sink
  obtain ⟨hfails, -, htaken⟩ := run_fails_by_first_fault hnone {} source sink
  obtain ⟨hrun, -, hrelays⟩ := hfirst _ hformat
  obtain ⟨hrun', -, -⟩ := hfirst' _ hblock
  exact ⟨hthree, hformat, hrun, hrelays, hlast, hblock, hrun', hnone, hsound,
    fun hfailed => hsound (hfails.mp hfailed), htaken (by decide)⟩

end Stream

end CaptureReport
