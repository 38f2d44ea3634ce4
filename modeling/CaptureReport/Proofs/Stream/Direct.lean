import CaptureReport.Proofs.Report.Groups
import CaptureReport.Proofs.Stream.Consumer
import CaptureReport.Stream.Run

/-!
# A run and its capture in one piece

A run cuts its capture three times over: reads fill blocks, blocks become packets, and the trigger
splits a packet. None of it shows. The report is the one that a session brings out if the capture is
sent to it **directly**, in one block or in two with the trigger in between; only a capture without
any bytes makes a difference, since no block ever comes of it. So two runs that differ in how the
capture comes in and in how it is cut have the same outcome.

## Main results

* `Carries.recording`: the packets of a capture that was cut are the same recording as the direct
  ones.
* `Plan.run_outcome`: what comes of a plan.
* `run_eq_direct`: what comes of a run.
-/

namespace CaptureReport.Stream

open Report

/-! ### Direct packets -/

/-- The sample of the trigger, if the capture reaches it. -/
def reached (unitSize : Nat) (trigger : Option Nat) (data : List UInt8) : Option Nat :=
  trigger.filter (· ≤ data.length / unitSize)

/-- The packets of a capture that is sent **directly**: the samples before the trigger, the trigger,
and all bytes behind them; or all bytes at once if there is no trigger to be reported. -/
def directPackets (unitSize : Nat) (trigger : Option Nat) (data : List UInt8) : List Packet :=
  match reached unitSize trigger data with
  | none => [.block { unitSize, data }, .finish]
  | some k =>
    [.block { unitSize, data := data.take (k * unitSize) }, .trigger,
      .block { unitSize, data := data.drop (k * unitSize) }, .finish]

/-- The recording of a capture that is over. -/
def recordingOf (unitSize : Nat) (trigger : Option Nat) (data : List UInt8) : Recording where
  begun := !data.isEmpty
  samples := (Block.mk unitSize data).samples
  triggers := (reached unitSize trigger data).toList
  ended := true

variable {c : Cutting} {trigger : Option Nat} {data : List UInt8} {feeds : List Feed}

theorem reached_eq_some_iff {unitSize k : Nat} :
    reached unitSize trigger data = some k ↔
      trigger = some k ∧ k ≤ data.length / unitSize := by
  rw [reached, Option.filter_eq_some_iff, decide_eq_true_eq]

/-- The packets of some bytes, in one block or in two with a trigger in between. -/
def splitPackets (unitSize : Nat) (place : Option Nat) (data : List UInt8) : List Packet :=
  match place with
  | none => [.block { unitSize, data }]
  | some k =>
    [.block { unitSize, data := data.take (k * unitSize) }, .trigger,
      .block { unitSize, data := data.drop (k * unitSize) }]

theorem directPackets_eq (unitSize : Nat) (trigger : Option Nat) (data : List UInt8) :
    directPackets unitSize trigger data
      = splitPackets unitSize (reached unitSize trigger data) data ++ [.finish] := by
  rw [directPackets]
  cases reached unitSize trigger data <;> rfl

theorem mem_splitPackets {unitSize : Nat} {place : Option Nat} {data : List UInt8} {packet : Packet}
    (h : packet ∈ splitPackets unitSize place data) :
    packet = .trigger ∨ ∃ part, packet = .block { unitSize, data := part } := by
  cases place with
  | none => exact .inr ⟨data, List.mem_singleton.mp h⟩
  | some k =>
    rcases List.mem_cons.mp h with rfl | h
    · exact .inr ⟨_, rfl⟩
    · rcases List.mem_cons.mp h with rfl | h
      · exact .inl rfl
      · exact .inr ⟨_, List.mem_singleton.mp h⟩

/-- Whether bytes come in one block or in two does not matter to the samples, and the trigger in
between stands where the bytes were split. -/
theorem foldl_add_splitPackets {unitSize : Nat} (hunit : 0 < unitSize) (r : Recording)
    {place : Option Nat} {data : List UInt8} (hplace : ∀ k ∈ place, k ≤ data.length / unitSize) :
    (splitPackets unitSize place data).foldl Recording.add r = { r with
      begun := true
      samples := r.samples ++ (Block.mk unitSize data).samples
      triggers := r.triggers ++ (place.map (r.samples.length + ·)).toList } := by
  cases place with
  | none =>
    rw [Option.map_none, Option.toList_none, List.append_nil]
    exact r.add_block hunit data
  | some k =>
    have hlen : (data.take (k * unitSize)).length = k * unitSize := by
      rw [List.length_take, Nat.min_eq_left]
      exact (Nat.le_div_iff_mul_le hunit).mp (hplace k rfl)
    have hwhole : unitSize ∣ (data.take (k * unitSize)).length := ⟨k, by rw [hlen, Nat.mul_comm]⟩
    have hsamples := samples_append hunit hwhole (data.drop (k * unitSize))
    have hcount : (Block.mk unitSize (data.take (k * unitSize))).samples.length = k := by
      rw [Block.length_samples, Block.sampleCount, hlen, Nat.mul_div_cancel _ hunit]
    rw [List.take_append_drop] at hsamples
    simp only [splitPackets, List.foldl_cons, List.foldl_nil, Recording.add_block _ hunit,
      Recording.add_trigger, hsamples, List.length_append, hcount, List.append_assoc]
    rfl

/-- The direct packets are the recording of their capture, and a block has come in any case. -/
theorem ofPackets_directPackets {unitSize : Nat} (hunit : 0 < unitSize) (trigger : Option Nat)
    (data : List UInt8) :
    Recording.ofPackets (directPackets unitSize trigger data)
      = { recordingOf unitSize trigger data with begun := true } := by
  have hreached : ∀ k ∈ reached unitSize trigger data, k ≤ data.length / unitSize :=
    fun k hk => (reached_eq_some_iff.mp hk).2
  rw [directPackets_eq, Recording.ofPackets_concat, Recording.ofPackets,
    foldl_add_splitPackets hunit _ hreached, recordingOf]
  simp [Recording.add]

/-! ### Packets of a capture that was cut -/

/-- Blocks are taken in one after another. -/
theorem foldl_add_blocks {unitSize : Nat} (hunit : unitSize ≠ 0) (r : Recording)
    (blocks : List (List UInt8)) :
    (packetsOf unitSize (blocks.map .block)).foldl Recording.add r = { r with
      begun := r.begun || !blocks.isEmpty
      samples := r.samples ++ blocks.flatMap fun data => (Block.mk unitSize data).samples } := by
  induction blocks generalizing r with
  | nil => simp [packetsOf]
  | cons data rest ih =>
    refine (ih (r.add (.block { unitSize, data }))).trans ?_
    rw [r.add_block (Nat.pos_of_ne_zero hunit), List.flatMap_cons, List.append_assoc]
    simp

/-- The front of blocks cut at sample boundaries is cut there as well. -/
theorem atSampleBoundaries_left {unitSize : Nat} {before after : List (List UInt8)}
    (h : AtSampleBoundaries unitSize (before ++ after)) : AtSampleBoundaries unitSize before := by
  cases after with
  | nil => rwa [List.append_nil] at h
  | cons next after =>
    intro data hdata
    refine h data ?_
    rw [List.dropLast_append_cons]
    exact List.mem_append_left _ (List.dropLast_subset before hdata)

/-- There are blocks exactly if there are bytes. -/
theorem Cuts.isEmpty_eq {blocks : List (List UInt8)} (h : Cuts c data blocks) :
    blocks.isEmpty = data.isEmpty := by
  rw [← h.flatten]
  cases blocks with
  | nil => rfl
  | cons block blocks =>
    have hne := (h.sizes block List.mem_cons_self).1
    rw [List.flatten_cons]
    simp [hne]

theorem Cuts.samples {blocks : List (List UInt8)} (h : Cuts c data blocks) :
    blocks.flatMap (fun block => (Block.mk c.unitSize block).samples)
      = (Block.mk c.unitSize data).samples := by
  rw [← samples_flatten c.unitSize_pos h.whole, h.flatten]

/-- **The packets of a capture that was cut are the recording of the capture.** -/
theorem Carries.recording (h : Carries c 0 trigger data feeds) :
    Recording.ofPackets (packetsOf c.unitSize feeds) = recordingOf c.unitSize trigger data := by
  have hunit : c.unitSize ≠ 0 := Nat.ne_of_gt c.unitSize_pos
  cases h with
  | plain hcuts hpast =>
    rename_i blocks
    have hnone : reached c.unitSize trigger data = none := by
      rw [Option.eq_none_iff_forall_not_mem]
      intro k hk
      obtain ⟨htrigger, hle⟩ := reached_eq_some_iff.mp hk
      have hlt := hpast k htrigger
      omega
    rw [Recording.ofPackets, packetsOf_append, packetsOf_finish, List.foldl_append,
      foldl_add_blocks hunit, recordingOf, hnone, hcuts.isEmpty_eq, hcuts.samples]
    rfl
  | marked htrigger hwithin hcuts hplace =>
    rename_i k before after
    rw [Nat.zero_add] at hwithin hplace
    have hsome : reached c.unitSize trigger data = some k :=
      reached_eq_some_iff.mpr ⟨htrigger, hwithin⟩
    -- As many samples stand before the trigger as it was asked for, leftover or not.
    have hcount : (before.flatMap fun block => (Block.mk c.unitSize block).samples).length = k := by
      rw [← samples_flatten c.unitSize_pos (atSampleBoundaries_left hcuts.whole),
        Block.length_samples, Block.sampleCount, hplace]
      split
      · rename_i hend
        exact hend.symm
      · rw [Nat.sub_zero, Nat.mul_div_cancel _ c.unitSize_pos]
    have hsamples := hcuts.samples
    have hbegun : (!before.isEmpty || !after.isEmpty) = !data.isEmpty := by
      rw [← hcuts.isEmpty_eq]
      cases before <;> rfl
    rw [List.flatMap_append] at hsamples
    rw [Recording.ofPackets, packetsOf_append, packetsOf_trigger, packetsOf_append,
      packetsOf_finish, List.foldl_append, foldl_add_blocks hunit, List.foldl_cons,
      List.foldl_append, foldl_add_blocks hunit, recordingOf, hsome, ← hsamples]
    simp [Recording.add, hcount, hbegun]

/-! ### Reports -/

/-- Among feeds that carry a capture there is no failure, and its end is the last of their
packets. -/
theorem Carries.open_ (h : Carries c 0 trigger data feeds) :
    (∀ message, .failed message ∉ feeds) ∧
      ∀ packet ∈ (packetsOf c.unitSize feeds).dropLast, packet ≠ .finish := by
  obtain ⟨front, rfl, hfront⟩ := h.conveys.ends
  constructor
  · intro message hmem
    rcases List.mem_append.mp hmem with hmem | hmem
    · rcases hfront _ hmem with heq | ⟨_, heq⟩ <;> cases heq
    · rcases List.mem_singleton.mp hmem with heq
      cases heq
  · intro packet hpacket
    rw [packetsOf_append, packetsOf_finish, List.dropLast_concat] at hpacket
    obtain ⟨feed, hfeed, heq⟩ := List.mem_filterMap.mp hpacket
    rcases hfront feed hfeed with rfl | ⟨block, rfl⟩ <;> cases heq <;> exact Packet.noConfusion

/-- A session refuses none of the direct packets. -/
theorem directPackets_taken {unitSize : Nat} (hunit : 0 < unitSize) (trigger : Option Nat)
    (data : List UInt8) :
    ∀ b, .block b ∈ directPackets unitSize trigger data → b.unitSize ≠ 0 := by
  intro b hb
  rw [directPackets_eq] at hb
  rcases List.mem_append.mp hb with hmem | hmem
  · rcases mem_splitPackets hmem with heq | ⟨part, heq⟩
    · cases heq
    · cases heq
      exact Nat.ne_of_gt hunit
  · cases List.mem_singleton.mp hmem

/-- The end is the last of the direct packets. -/
theorem directPackets_open (unitSize : Nat) (trigger : Option Nat) (data : List UInt8) :
    ∀ packet ∈ (directPackets unitSize trigger data).dropLast, packet ≠ .finish := by
  rw [directPackets_eq, List.dropLast_concat]
  rintro packet hpacket rfl
  rcases mem_splitPackets hpacket with heq | ⟨part, heq⟩ <;> cases heq

/-- The direct report is the layout of the capture, but for a capture without any bytes. -/
theorem report_directPackets {device : Device} {width unitSize : Nat} {e : Encoder}
    (hunit : 0 < unitSize) (hfollows : e.Follows device width {}) (trigger : Option Nat)
    (data : List UInt8) :
    (if data = [] then "" else e.report (directPackets unitSize trigger data))
      = layout device width (recordingOf unitSize trigger data) := by
  by_cases hempty : data = []
  · have hbegun : (recordingOf unitSize trigger data).begun = false := by
      rw [recordingOf, hempty]
      rfl
    have hsamples : (recordingOf unitSize trigger data).samples = [] := by
      rw [recordingOf, hempty]
      exact samples_of_length_lt hunit
    rw [if_pos hempty, layout_of_empty device width hbegun hsamples]
  · have hbegun : true = (recordingOf unitSize trigger data).begun := by
      rw [recordingOf]
      simpa using hempty
    rw [if_neg hempty, hfollows.report_eq (directPackets_open unitSize trigger data),
      ofPackets_directPackets hunit, hbegun]

/-- **The report of a capture that was cut is the direct one**, and empty without any bytes. -/
theorem Carries.report_eq {device : Device} {width : Nat} {e : Encoder}
    (h : Carries c 0 trigger data feeds) (hfollows : e.Follows device width {}) :
    e.report (packetsOf c.unitSize feeds)
      = if data = [] then "" else e.report (directPackets c.unitSize trigger data) := by
  rw [hfollows.report_eq h.open_.2, h.recording, report_directPackets c.unitSize_pos hfollows]

/-- The totals of a capture that was cut are those of the capture. -/
theorem Carries.totals (h : Carries c 0 trigger data feeds) :
    ((blocksOf feeds).map (·.length / c.unitSize)).sum = data.length / c.unitSize ∧
      feeds.count .trigger = (reached c.unitSize trigger data).toList.length := by
  have hconveys := h.conveys
  constructor
  · have hsamples := congrArg List.length hconveys.cuts.samples
    rw [Block.length_samples, List.length_flatMap] at hsamples
    simpa [Block.sampleCount] using hsamples
  · cases hreached : reached c.unitSize trigger data with
    | none =>
      refine List.count_eq_zero.mpr fun hmem => ?_
      obtain ⟨k, hk, hle⟩ := hconveys.triggered.mp hmem
      rw [reached_eq_some_iff.mpr ⟨hk, hle⟩] at hreached
      cases hreached
    | some k =>
      have hmem := hconveys.triggered.mpr ⟨k, reached_eq_some_iff.mp hreached⟩
      exact Nat.le_antisymm hconveys.once (List.count_pos_iff.mpr hmem)

/-! ### Outcomes -/

/-- What comes of a run that ends well: all bytes that the sink has received by then, the totals,
and the warnings. How many blocks there were is left out. -/
structure Outcome where
  received : List UInt8
  samples : Nat
  triggers : Nat
  bytesOut : Nat
  warnings : List Notice
  deriving DecidableEq, Repr

/-- What comes of a run, or why it failed. -/
def Run.outcome (r : Run) : Except Failure Outcome :=
  r.result.map fun stats => {
    received := r.sink.received.toList
    samples := stats.samples
    triggers := stats.triggers
    bytesOut := stats.bytesOut
    warnings := r.notices.filter Notice.isWarning }

theorem filter_leftover (c : Cutting) (data : List UInt8) :
    (Reader.leftover c data).filter Notice.isWarning = Reader.leftover c data := by
  rw [Reader.leftover]
  split <;> rfl

theorem filter_pastEnd (trigger : Option Nat) (total : Nat) :
    (pastEnd trigger total).filter Notice.isWarning = pastEnd trigger total := by
  cases trigger with
  | none => rfl
  | some k =>
    rw [pastEnd]
    split <;> rfl

/-- Of all that a run tells, what the reader has to tell are the warnings. -/
theorem filter_told (c : Cutting) (trigger : Option Nat) (data : List UInt8) (total : Nat)
    (stats : Stats) :
    (Reader.leftover c data ++ pastEnd trigger total ++ [Notice.encoded stats]).filter
        Notice.isWarning
      = Reader.leftover c data ++ pastEnd trigger total := by
  rw [List.filter_append, List.filter_append, filter_leftover, filter_pastEnd]
  exact List.append_nil _

/-- What comes of a run whose session brings out a report. -/
def Outcome.ofReport (c : Cutting) (trigger : Option Nat) (data : List UInt8) (sink : Sink)
    (report : String) : Outcome where
  received := sink.received.toList ++ Consumer.bytesOf report
  samples := data.length / c.unitSize
  triggers := (reached c.unitSize trigger data).toList.length
  bytesOut := report.utf8ByteSize
  warnings := Reader.leftover c data ++ pastEnd trigger (data.length / c.unitSize)

/-- Of the cutting only the width of a sample counts. -/
theorem Outcome.ofReport_congr {c c' : Cutting} (h : c'.unitSize = c.unitSize) (sink : Sink)
    (report : String) :
    ofReport c' trigger data sink report = ofReport c trigger data sink report := by
  rw [ofReport, ofReport, Reader.leftover, Reader.leftover, h]

/-- **What comes of a plan** is told by its session, the bytes of the source and the trigger. -/
theorem Plan.run_outcome {p : Plan} {e : Encoder} {device : Device} {width : Nat} {source : Source}
    {sink : Sink} (hencoder : p.session.encoder = some e) (hfollows : e.Follows device width {})
    (hroom : p.cutting.blockSize ≤ memoryLimit) (hfault : source.fault = none)
    (hsink : sink.NeverFails) (trigger : Option Nat) :
    (p.run trigger source sink).outcome = .ok (.ofReport p.cutting trigger source.bytes sink
      (if source.bytes = [] then ""
        else e.report (directPackets p.cutting.unitSize trigger source.bytes))) := by
  obtain ⟨hcarries, htold⟩ := Reader.run_spec (c := p.cutting) (r := { source, trigger })
    (fun k _ => Nat.zero_le k) hfault
  obtain ⟨hsamples, htriggers⟩ := hcarries.totals
  obtain ⟨after, hdrain, hstats, hreceived⟩ := Consumer.drain_spec
    (k := { session := p.session, sink }) (Nat.ne_of_gt p.cutting.unitSize_pos) hencoder hsink
    hcarries.open_.1
  have hreport := hcarries.report_eq hfollows
  rw [hreport] at hstats hreceived
  rw [Nat.zero_add] at htold
  rw [Plan.run, Reader.feed?_of_room hroom]
  simp only [hdrain, Run.outcome, Except.map, htold, filter_told, hreceived, hstats, Stats.add,
    hsamples, htriggers, Nat.zero_add, Outcome.ofReport]

/-! ### Runs -/

variable {settings : Settings} {device : Device} {p : Plan}

/-- A plan is a session and a cutting, each made from settings of its own. -/
theorem plan_eq_ok_iff :
    plan settings device = .ok p ↔
      ∃ format, Format.find? settings.output.format = some format ∧
        Session.start format (sessionOptions settings.output) (some device) = .ok p.session ∧
        planCutting settings = .ok p.cutting := by
  rw [plan]
  constructor
  · intro h
    split at h
    · cases h
    · rename_i format hformat
      split at h
      · cases h
      · rename_i session hsession
        split at h
        · cases h
        · rename_i cutting hcutting
          cases h
          exact ⟨format, hformat, hsession, hcutting⟩
  · rintro ⟨format, hformat, hsession, hcutting⟩
    simp only [hformat, hsession, hcutting]

theorem unitSize_of_planCutting {c : Cutting} (h : planCutting settings = .ok c) :
    c.unitSize = settings.input.sampleSize := by
  rw [planCutting] at h
  split at h
  · cases h
  · dsimp only at h
    split at h
    · cases h
    · cases h
      rfl

/-- A session that has been started has an encoder that has not taken in anything, for lines of the
width that the options ask for. -/
theorem encoder_of_start {format : Format} {options : Session.Options} {s : Session}
    (h : Session.start format options (some device) = .ok s) :
    ∃ e width, chosenWidth (options.lookup "width") = .ok width ∧ s.encoder = some e ∧
      e.Follows device width {} := by
  rw [Session.start] at h
  split at h
  · cases h
  · cases format with
    | hex =>
      cases hwidth : chosenWidth (options.lookup "width") with
      | error refusal =>
        rw [Encoder.ofDevice_eq_error device hwidth] at h
        cases h
      | ok width =>
        obtain ⟨e, hnew, hfollows⟩ := Encoder.exists_ofDevice device hwidth
        rw [hnew] at h
        cases h
        exact ⟨e, width, rfl, rfl, hfollows⟩

theorem exists_encoder_of_start {format : Format} {options : Session.Options} {s : Session}
    (h : Session.start format options (some device) = .ok s) :
    ∃ e width, s.encoder = some e ∧ e.Follows device width {} := by
  obtain ⟨e, width, -, hencoder, hfollows⟩ := encoder_of_start h
  exact ⟨e, width, hencoder, hfollows⟩

/-- **What comes of a run is what a session brings out for the capture in one piece**, or in two
around the trigger. It does not depend on how the source hands out the bytes, nor on the settings of
the stream. -/
theorem run_eq_direct {source : Source} {sink : Sink} (hplan : plan settings device = .ok p)
    (hroom : p.cutting.blockSize ≤ memoryLimit) (hfault : source.fault = none)
    (hsink : sink.NeverFails) :
    (∃ report, p.session.report (directPackets settings.input.sampleSize settings.input.triggerAt
          source.bytes) = .ok report ∧
        (run settings device source sink).outcome
          = .ok (.ofReport p.cutting settings.input.triggerAt source.bytes sink
            (if source.bytes = [] then "" else report))) ∧
      ∀ stream p' source', plan { settings with stream } device = .ok p' →
        p'.cutting.blockSize ≤ memoryLimit → source'.bytes = source.bytes →
        source'.fault = none →
        (run { settings with stream } device source' sink).outcome
          = (run settings device source sink).outcome := by
  obtain ⟨format, hformat, hsession, hcutting⟩ := plan_eq_ok_iff.mp hplan
  obtain ⟨e, width, hencoder, hfollows⟩ := exists_encoder_of_start hsession
  have hunit := unitSize_of_planCutting hcutting
  have hpos : 0 < settings.input.sampleSize := hunit ▸ p.cutting.unitSize_pos
  have hrun : run settings device source sink = p.run settings.input.triggerAt source sink := by
    rw [run, hplan]
  have houtcome := Plan.run_outcome hencoder hfollows hroom hfault hsink settings.input.triggerAt
  rw [← hrun] at houtcome
  refine ⟨⟨_, Session.report_eq hencoder (directPackets_taken hpos _ _), ?_⟩, ?_⟩
  · rw [houtcome, hunit]
  · intro stream p' source' hplan' hroom' hbytes hfault'
    obtain ⟨format', hformat', hsession', hcutting'⟩ := plan_eq_ok_iff.mp hplan'
    obtain rfl : format = format' := Option.some.inj (hformat.symm.trans hformat')
    have hsame : p'.session = p.session := Except.ok.inj (hsession'.symm.trans hsession)
    have hunit' : p'.cutting.unitSize = p.cutting.unitSize :=
      (unitSize_of_planCutting hcutting').trans hunit.symm
    have hrun' : run { settings with stream } device source' sink
        = p'.run settings.input.triggerAt source' sink := by
      rw [run, hplan']
    rw [hrun', Plan.run_outcome (hsame ▸ hencoder) hfollows hroom' hfault' hsink, houtcome, hbytes,
      hunit', Outcome.ofReport_congr hunit']

/-- A capture of two samples and an odd byte, in one block and in three, to a sink that takes two
bytes at a time. -/
theorem run_eq_direct_three_blocks :
    let input : InputSettings := { unitSize := some 2, triggerAt := some 1 }
    let device : Device := { channels := [{ index := 9, name := "HI" }] }
    let source : Source := .ofBytes [1, 2, 3, 4, 5]
    let source' : Source := { later := [.burst [1, 2, 3], .interrupted, .burst [4, 5]] }
    let sink : Sink := { perWrite := some 2 }
    let whole : Settings := { input, stream := { chunkSamples := 4 } }
    let cut : Settings := { input, stream := { chunkSamples := 1 } }
    ∃ p p', plan whole device = .ok p ∧ plan cut device = .ok p' ∧
      p.cutting.blockSize ≤ memoryLimit ∧ p'.cutting.blockSize ≤ memoryLimit ∧
      source.fault = none ∧ source'.fault = none ∧ source'.bytes = source.bytes ∧
      sink.NeverFails ∧
      (∃ report, p.session.report (directPackets 2 (some 1) [1, 2, 3, 4, 5]) = .ok report ∧
        (run whole device source sink).outcome
          = .ok (.ofReport p.cutting (some 1) [1, 2, 3, 4, 5] sink report)) ∧
      (run cut device source' sink).outcome = (run whole device source sink).outcome := by
  intro input device source source' sink whole cut
  have hplan : ∃ p, plan whole device = .ok p ∧ p.cutting.blockSize ≤ memoryLimit :=
    ⟨_, rfl, by decide⟩
  have hplan' : ∃ p, plan cut device = .ok p ∧ p.cutting.blockSize ≤ memoryLimit :=
    ⟨_, rfl, by decide⟩
  obtain ⟨p, hplan, hroom⟩ := hplan
  obtain ⟨p', hplan', hroom'⟩ := hplan'
  have hfault : source.fault = none := rfl
  have hsink : sink.NeverFails := ⟨by decide, rfl, rfl⟩
  obtain ⟨hdirect, hsame⟩ := run_eq_direct hplan hroom hfault hsink
  exact ⟨p, p', hplan, hplan', hroom, hroom', hfault, rfl, rfl, hsink, hdirect,
    hsame { chunkSamples := 1 } p' source' hplan' hroom' rfl rfl⟩

end CaptureReport.Stream
