import CaptureReport.Proofs.Stream.Reports

/-!
# Runs whose source fails

A source that fails takes with it the bytes of the block that was being filled. The blocks before it
have been encoded and written, and that is all: the run fails with what the source said, nothing is
flushed, and the stream is not brought to its end. How much has been written by then depends on the
size of a block, but it is never anything that a longer capture would not have brought out as well.

## Main results

* `Reader.run_of_fault`: the feeds of a source that fails.
* `openRecording_begins`: what is written by then is the beginning of every report of a capture that
  begins with the same bytes.
* `run_fault`: what comes of a run.
-/

namespace CaptureReport.Stream

open Report

/-! ### The front of a capture -/

/-- The bytes of a capture that fill whole blocks. -/
def Cutting.filled (c : Cutting) (data : List UInt8) : List UInt8 :=
  data.take (data.length / c.blockSize * c.blockSize)

/-- The packets of the front of a capture, sent directly and with no end to them. -/
def openPackets (unitSize : Nat) (trigger : Option Nat) (front : List UInt8) : List Packet :=
  if front = [] then []
  else splitPackets unitSize (trigger.filter (· < front.length / unitSize)) front

/-- The recording of the front of a capture. -/
def openRecording (unitSize : Nat) (trigger : Option Nat) (front : List UInt8) : Recording where
  begun := !front.isEmpty
  samples := (Block.mk unitSize front).samples
  triggers := (trigger.filter (· < front.length / unitSize)).toList

section Front

variable {unitSize : Nat} {trigger : Option Nat} {front whole : List UInt8}

theorem ofPackets_openPackets (hunit : 0 < unitSize) (trigger : Option Nat) (front : List UInt8) :
    Recording.ofPackets (openPackets unitSize trigger front)
      = openRecording unitSize trigger front := by
  rw [openPackets, Recording.ofPackets]
  by_cases hempty : front = []
  · have hnone : trigger.filter (· < ([] : List UInt8).length / unitSize) = none := by
      rw [List.length_nil, Nat.zero_div]
      simp
    rw [if_pos hempty, openRecording, hempty, hnone, samples_of_length_lt hunit]
    rfl
  · have hwithin : ∀ k ∈ trigger.filter (· < front.length / unitSize),
        k ≤ front.length / unitSize := fun k hk =>
      Nat.le_of_lt (of_decide_eq_true (Option.mem_filter_iff.mp hk).2)
    rw [if_neg hempty, foldl_add_splitPackets hunit _ hwithin, openRecording]
    simp [hempty]

/-- Among the packets of the front of a capture there are blocks and a trigger only. -/
theorem mem_openPackets {packet : Packet} (h : packet ∈ openPackets unitSize trigger front) :
    packet = .trigger ∨ ∃ part, packet = .block { unitSize, data := part } := by
  rw [openPackets] at h
  split at h
  · cases h
  · exact mem_splitPackets h

/-- What a session brings out for the front of a capture is the layout of its recording. -/
theorem report_openPackets {device : Device} {width : Nat} {e : Encoder} {s : Session}
    (hunit : 0 < unitSize) (hencoder : s.encoder = some e) (hfollows : e.Follows device width {})
    (trigger : Option Nat) (front : List UInt8) :
    s.report (openPackets unitSize trigger front)
      = .ok (layout device width (openRecording unitSize trigger front)) := by
  have htaken : ∀ b, .block b ∈ openPackets unitSize trigger front → b.unitSize ≠ 0 := by
    intro b hb
    rcases mem_openPackets hb with heq | ⟨part, heq⟩
    · cases heq
    · cases heq
      exact Nat.ne_of_gt hunit
  have hopen : ∀ packet ∈ (openPackets unitSize trigger front).dropLast, packet ≠ .finish := by
    rintro packet hpacket rfl
    rcases mem_openPackets (List.dropLast_subset _ hpacket) with heq | ⟨part, heq⟩ <;> cases heq
  rw [Session.report_eq hencoder htaken, hfollows.report_eq hopen, ofPackets_openPackets hunit]

/-- A trigger that the capture reaches is within its front, or behind it. -/
theorem toList_reached (trigger : Option Nat) {next : Nat} {data : List UInt8}
    (h : next ≤ data.length / unitSize) :
    ∃ later, (reached unitSize trigger data).toList
        = (trigger.filter (· < next)).toList ++ later ∧ ∀ k ∈ later, next ≤ k := by
  cases trigger with
  | none => exact ⟨[], rfl, fun k hk => absurd hk List.not_mem_nil⟩
  | some k =>
    by_cases hk : k < next
    · have hreached : reached unitSize (some k) data = some k :=
        reached_eq_some_iff.mpr ⟨rfl, by omega⟩
      refine ⟨[], ?_, fun k hk => absurd hk List.not_mem_nil⟩
      rw [hreached, Option.filter_some_pos (by simpa using hk)]
      rfl
    · refine ⟨(reached unitSize (some k) data).toList, ?_, fun t ht => ?_⟩
      · rw [Option.filter_some_neg (by simpa using hk)]
        rfl
      · obtain ⟨heq, -⟩ := reached_eq_some_iff.mp (Option.mem_toList.mp ht)
        obtain rfl : k = t := Option.some.inj heq
        exact Nat.not_lt.mp hk

/-- **The front of a capture, cut between two samples, is what its recording begins with.** -/
theorem openRecording_begins (hunit : 0 < unitSize) (trigger : Option Nat)
    (hbegin : front <+: whole) (hdvd : unitSize ∣ front.length) :
    (openRecording unitSize trigger front).Begins (recordingOf unitSize trigger whole) := by
  obtain ⟨rest, rfl⟩ := hbegin
  have hsamples := samples_append hunit hdvd rest
  have hle : front.length / unitSize ≤ (front ++ rest).length / unitSize :=
    Nat.div_le_div_right (by rw [List.length_append]; omega)
  refine ⟨rfl, ?_, ?_, ?_, ?_⟩
  · intro hbegun
    have hempty : front = [] := by simpa [openRecording] using hbegun
    rw [openRecording, hempty]
    exact samples_of_length_lt hunit
  · intro hbegun
    have hne : front ≠ [] := by simpa [openRecording] using hbegun
    simp [recordingOf, hne]
  · rw [recordingOf, hsamples]
    exact List.prefix_append _ _
  · obtain ⟨later, htriggers, hbehind⟩ := toList_reached trigger hle
    refine ⟨later, htriggers, fun k hk => ?_⟩
    rw [openRecording, Block.length_samples]
    exact hbehind k hk

end Front

/-! ### The feeds -/

theorem Cutting.dvd_filled (c : Cutting) (data : List UInt8) :
    c.unitSize ∣ (c.filled data).length := by
  have hle : data.length / c.blockSize * c.blockSize ≤ data.length := Nat.div_mul_le_self _ _
  rw [filled, List.length_take, Nat.min_eq_left hle, blockSize]
  exact ⟨data.length / (c.unitSize * c.chunkSamples) * c.chunkSamples, by
    rw [Nat.mul_left_comm]⟩

/-- A full block is filled, and as much of what is behind it as fills blocks. -/
theorem Cutting.filled_of_le {c : Cutting} {data : List UInt8} (h : c.blockSize ≤ data.length) :
    c.filled data = data.take c.blockSize ++ c.filled (data.drop c.blockSize) := by
  have hpos := c.blockSize_pos
  have hcount : data.length / c.blockSize
      = (data.drop c.blockSize).length / c.blockSize + 1 := by
    rw [List.length_drop, ← Nat.sub_add_cancel h, Nat.add_div_right _ hpos, Nat.add_sub_cancel]
  rw [filled, filled, hcount, Nat.succ_mul, Nat.add_comm, List.take_add]

theorem Cutting.filled_of_lt {c : Cutting} {data : List UInt8} (h : data.length < c.blockSize) :
    c.filled data = [] := by
  rw [filled, Nat.div_eq_of_lt h, Nat.zero_mul, List.take_zero]

namespace Reader

variable {c : Cutting} {r : Reader} {data : List UInt8} {message : String}

/-- The feeds of one block add its samples to a recording, and the trigger if it lies in the
block. -/
theorem foldl_add_cut (hstart : ∀ k ∈ r.trigger, r.position ≤ k) {t : Recording}
    (hposition : t.samples.length = r.position) (data : List UInt8) :
    (packetsOf c.unitSize (r.cut c data).1).foldl Recording.add t = { t with
      begun := true
      samples := t.samples ++ (Block.mk c.unitSize data).samples
      triggers := t.triggers ++
        (r.trigger.filter (· < r.position + data.length / c.unitSize)).toList } := by
  have hunit := c.unitSize_pos
  rcases Classical.em (∃ k ∈ r.trigger, k < r.position + data.length / c.unitSize) with
    ⟨k, htrigger, hlt⟩ | hout
  · have hk := hstart k htrigger
    have hwithin : ∀ i ∈ some (k - r.position), i ≤ data.length / c.unitSize := by
      rintro i ⟨rfl⟩
      omega
    have hsplit := foldl_add_splitPackets hunit t hwithin
    rw [Option.map_some, hposition, Nat.add_sub_cancel' hk] at hsplit
    rw [Option.mem_def.mp htrigger, Option.filter_some_pos (by simpa using hlt),
      cut_of_inside htrigger hk hlt]
    refine Eq.trans ?_ hsplit
    -- A first part that is left out would have added nothing but that data has come.
    by_cases hempty : (data.take ((k - r.position) * c.unitSize)).isEmpty
    · have hnone : (Block.mk c.unitSize []).samples = [] := samples_of_length_lt hunit
      rw [if_pos hempty, splitPackets, List.isEmpty_iff.mp hempty]
      simp [packetsOf, packetOf, Recording.add_block _ hunit, Recording.add_trigger, hnone,
        -Block.length_samples]
    · rw [if_neg hempty]
      rfl
  · have hnone : r.trigger.filter (· < r.position + data.length / c.unitSize) = none := by
      rw [Option.filter_eq_none_iff]
      intro k hk hlt
      exact hout ⟨k, hk, of_decide_eq_true hlt⟩
    rw [cut_of_outside fun k hk hlt => hout ⟨k, hk, hlt⟩, hnone, Option.toList_none,
      List.append_nil]
    exact t.add_block hunit data

/-- The trigger within a first part of a capture, and the one within the rest behind it. -/
theorem toList_filter_append (trigger : Option Nat) {next total : Nat} (h : next ≤ total) :
    (trigger.filter (· < next)).toList ++
        ((trigger.filter (next ≤ ·)).filter (· < total)).toList
      = (trigger.filter (· < total)).toList := by
  cases trigger with
  | none => rfl
  | some k =>
    by_cases hk : k < next
    · have htotal : k < total := by omega
      simp [Option.filter_some, hk, htotal, Nat.not_le.mpr hk]
    · have hge : next ≤ k := Nat.not_lt.mp hk
      simp [Option.filter_some, hk, hge]

/-- One round of a source that fails: the failure, if there is no full block before it, or the feeds
of a full block. -/
theorem round_of_fault (hfault : r.source.fault = some message) :
    match (r.round c).next with
    | none => r.source.bytes.length < c.blockSize ∧ (r.round c).feeds = [.failed message]
    | some next => ∃ source, c.blockSize ≤ r.source.bytes.length ∧
        source.bytes = r.source.bytes.drop c.blockSize ∧ source.fault = some message ∧
        (r.round c).feeds = (r.cut c (r.source.bytes.take c.blockSize)).1 ∧
        next = r.after c (r.source.bytes.take c.blockSize) source := by
  rcases round_cases c r with ⟨found, hshort, hfound, hround⟩ | ⟨source, -, hnone, -⟩ |
    ⟨source, -, -, hnone, -⟩ | ⟨source, hroom, hbytes, hsource, hround⟩
  · obtain rfl : message = found := Option.some.inj (hfault.symm.trans hfound)
    rw [hround]
    exact ⟨hshort, rfl⟩
  · rw [hnone] at hfault
    cases hfault
  · rw [hnone] at hfault
    cases hfault
  · rw [hround]
    exact ⟨source, hroom, hbytes, hsource.trans hfault, rfl, rfl⟩

/-- **The feeds of a source that fails** are those of the full blocks before the failure, and then
the failure. -/
theorem run_of_fault (hstart : ∀ k ∈ r.trigger, r.position ≤ k)
    (hfault : r.source.fault = some message) {t : Recording}
    (hposition : t.samples.length = r.position) :
    ∃ feeds, (r.run c).1 = feeds ++ [.failed message] ∧
      (∀ feed ∈ feeds, feed = .trigger ∨ ∃ block, feed = .block block) ∧
      (packetsOf c.unitSize feeds).foldl Recording.add t = { t with
        begun := t.begun || !(c.filled r.source.bytes).isEmpty
        samples := t.samples ++ (Block.mk c.unitSize (c.filled r.source.bytes)).samples
        triggers := t.triggers ++ (r.trigger.filter
          (· < r.position + (c.filled r.source.bytes).length / c.unitSize)).toList } := by
  fun_induction run c r generalizing t with
  | case1 r feeds notices hround =>
    have hspec := round_of_fault (c := c) hfault
    rw [hround] at hspec
    obtain ⟨hshort, hfeeds⟩ := hspec
    have hnone : r.trigger.filter (· < r.position + ([] : List UInt8).length / c.unitSize)
        = none := by
      rw [List.length_nil, Nat.zero_div, Option.filter_eq_none_iff]
      intro k hk hlt
      exact Nat.not_lt.mpr (hstart k hk) (of_decide_eq_true hlt)
    refine ⟨[], hfeeds, fun feed hfeed => absurd hfeed List.not_mem_nil, ?_⟩
    rw [Cutting.filled_of_lt hshort, samples_of_length_lt c.unitSize_pos, hnone]
    simp [packetsOf]
  | case2 r feeds notices next hround laterFeeds laterNotices hrun ih =>
    have hspec := round_of_fault (c := c) hfault
    rw [hround] at hspec
    obtain ⟨source, hroom, hbytes, hsource, rfl, rfl⟩ := hspec
    set data := r.source.bytes.take c.blockSize with hdata
    have hfull : data.length = c.blockSize := by
      rw [hdata, List.length_take, Nat.min_eq_left hroom]
    have hdvd : c.unitSize ∣ data.length := ⟨c.chunkSamples, hfull⟩
    have hfilled : c.filled r.source.bytes = data ++ c.filled source.bytes := by
      rw [Cutting.filled_of_le hroom, hbytes]
    have hcut := foldl_add_cut (c := c) hstart hposition data
    have hnext : (t.samples ++ (Block.mk c.unitSize data).samples).length
        = r.position + data.length / c.unitSize := by
      rw [List.length_append, hposition, Block.length_samples]
      rfl
    obtain ⟨more, hmore, hkind, hfold⟩ := ih (after_start c data source hstart) hsource
      (t := { t with
        begun := true
        samples := t.samples ++ (Block.mk c.unitSize data).samples
        triggers := t.triggers ++
          (r.trigger.filter (· < r.position + data.length / c.unitSize)).toList }) hnext
    rw [hrun] at hmore
    refine ⟨(r.cut c data).1 ++ more, ?_, ?_, ?_⟩
    · rw [List.append_assoc, ← hmore]
    · intro feed hfeed
      rcases List.mem_append.mp hfeed with hfirst | hlater
      · exact kind_of_mem_cut hfirst
      · exact hkind feed hlater
    · have hlater : (r.after c data source).trigger
          = r.trigger.filter (r.position + data.length / c.unitSize ≤ ·) :=
        cut_later c data hstart
      have htriggers := toList_filter_append r.trigger
        (Nat.le_add_right (r.position + data.length / c.unitSize)
          ((c.filled source.bytes).length / c.unitSize))
      have hbegun : (data ++ c.filled source.bytes).isEmpty = false := by
        cases hempty : data with
        | nil =>
          rw [hempty, List.length_nil] at hfull
          exact absurd hfull (Nat.ne_of_lt c.blockSize_pos)
        | cons byte rest => rfl
      rw [packetsOf_append, List.foldl_append, hcut, hfold, hfilled, hbegun, hlater,
        samples_append c.unitSize_pos hdvd, length_append_div (.inl hdvd), ← Nat.add_assoc,
        ← htriggers, ← List.append_assoc, ← List.append_assoc, Bool.not_false, Bool.or_true]
      rfl

end Reader

/-! ### Runs -/

/-- What a plan brings out before its source fails, to a sink that never fails. -/
theorem Plan.run_of_fault {p : Plan} {e : Encoder} {device : Device} {width : Nat} {source : Source}
    {sink : Sink} {message : String} (hencoder : p.session.encoder = some e)
    (hfollows : e.Follows device width {}) (hroom : p.cutting.blockSize ≤ memoryLimit)
    (hfault : source.fault = some message) (hsink : sink.NeverFails) (trigger : Option Nat) :
    (p.run trigger source sink).result = .error (.read message) ∧
      (p.run trigger source sink).sink.flushedAt = sink.flushedAt ∧
      (p.run trigger source sink).sink.received.toList = sink.received.toList ++
        Consumer.bytesOf (layout device width
          (openRecording p.cutting.unitSize trigger (p.cutting.filled source.bytes))) := by
  obtain ⟨feeds, hfeeds, hkind, hfold⟩ := Reader.run_of_fault (c := p.cutting)
    (r := { source, trigger }) (fun k _ => Nat.zero_le k) hfault (t := {}) rfl
  have hgoes : ∀ packet ∈ packetsOf p.cutting.unitSize feeds, packet ≠ .finish := by
    rintro packet hpacket rfl
    obtain ⟨feed, hfeed, heq⟩ := List.mem_filterMap.mp hpacket
    rcases hkind feed hfeed with rfl | ⟨block, rfl⟩ <;> cases heq
  have hnone : ∀ message, .failed message ∉ feeds := by
    intro message hmem
    rcases hkind _ hmem with heq | ⟨block, heq⟩ <;> cases heq
  have hreport : e.report (packetsOf p.cutting.unitSize feeds)
      = layout device width
        (openRecording p.cutting.unitSize trigger (p.cutting.filled source.bytes)) := by
    rw [hfollows.report_eq fun packet hpacket => hgoes packet (List.dropLast_subset _ hpacket),
      Recording.ofPackets, hfold]
    simp [openRecording]
  have hall := Consumer.acceptAll_spec (k := { session := p.session, sink })
    (Nat.ne_of_gt p.cutting.unitSize_pos) hencoder hsink.perWrite hnone
  have hdrain := Consumer.drain_append p.cutting.unitSize feeds [.failed message]
    { session := p.session, sink }
  generalize Consumer.acceptAll p.cutting.unitSize feeds { session := p.session, sink } = result
    at hall hdrain
  cases hall with
  | cut hfits => exact absurd (hsink.fits _) hfits
  | whole hfits htook =>
    obtain ⟨hlast, hresult⟩ := Plan.run_drain hroom trigger source sink hfeeds hdrain
    rw [hlast, hresult, ← hreport]
    exact ⟨rfl, htook.flushedAt, htook.received⟩

/-- **A run whose source fails** brings out what a session brings out for the samples of the blocks
that were filled before, with the trigger among them and no end to them, and fails with what the
source said. Every run that gets to the end of a capture which begins with the same bytes brings out
the same and more, however it is cut. -/
theorem run_fault {settings : Settings} {device : Device} {p : Plan} {source : Source} {sink : Sink}
    {message : String} (hplan : plan settings device = .ok p)
    (hroom : p.cutting.blockSize ≤ memoryLimit) (hfault : source.fault = some message)
    (hsink : sink.NeverFails) :
    let unitSize := settings.input.sampleSize
    let chunk := max settings.stream.chunkSamples 1
    let count := source.bytes.length / (chunk * unitSize) * chunk
    let front := source.bytes.take (count * unitSize)
    ∃ report,
      p.session.report (openPackets unitSize settings.input.triggerAt front) = .ok report ∧
      (∃ failure, (run settings device source sink).result = .error failure ∧
        failure.message = "failed to read capture" ∧ failure.causes = [message]) ∧
      (run settings device source sink).sink.flushedAt = sink.flushedAt ∧
      (run settings device source sink).sink.received.toList
        = sink.received.toList ++ Consumer.bytesOf report ∧
      ∀ stream p' source' (sink' : Sink), plan { settings with stream } device = .ok p' →
        p'.cutting.blockSize ≤ memoryLimit → source.bytes <+: source'.bytes →
        source'.fault = none → sink'.NeverFails →
        ∃ rest, (run { settings with stream } device source' sink').Reports sink'
          (report ++ rest) := by
  intro unitSize chunk count front
  obtain ⟨e, hencoder, hfollows⟩ := encoder_of_plan hplan
  have hunit : p.cutting.unitSize = unitSize := unitSize_of_plan hplan
  have hpos : 0 < unitSize := hunit ▸ p.cutting.unitSize_pos
  have hblock : p.cutting.blockSize = chunk * unitSize := by
    rw [blockSize_of_plan hplan, Nat.mul_comm]
  have hfront : p.cutting.filled source.bytes = front := by
    rw [Cutting.filled, hblock, ← Nat.mul_assoc]
  have hdvd : unitSize ∣ front.length := by
    rw [← hfront, ← hunit]
    exact p.cutting.dvd_filled source.bytes
  obtain ⟨hresult, hflushed, hreceived⟩ :=
    Plan.run_of_fault hencoder hfollows hroom hfault hsink settings.input.triggerAt
  rw [hfront, hunit] at hreceived
  have hrun : run settings device source sink = p.run settings.input.triggerAt source sink := by
    rw [run, hplan]
  rw [hrun]
  refine ⟨_, report_openPackets hpos hencoder hfollows settings.input.triggerAt front,
    ⟨_, hresult, rfl, rfl⟩, hflushed, hreceived, ?_⟩
  intro stream p' source' sink' hplan' hroom' hbegin hfault' hsink'
  have hreports := run_reports hplan' hroom' hfault' hsink'
  have hcut : front <+: source.bytes := List.take_prefix _ _
  have hbegins := openRecording_begins hpos settings.input.triggerAt
    (hcut.trans hbegin) hdvd
  obtain ⟨rest, hrest⟩ := hbegins.layout_eq device settings.output.lineWidth
  refine ⟨rest, ?_⟩
  rw [← hrest]
  exact hreports

/-- A source that fails within the third block of three samples, and one that goes on to the end of
the capture, cut into blocks of five. -/
theorem run_fault_third_block :
    let device : Device := { channels := [{ index := 0, name := "D0" }] }
    let settings : Settings :=
      { input := { unitSize := some 1, triggerAt := some 4 }, output := { width := some 5 }
        stream := { chunkSamples := 3 } }
    let stream : StreamSettings := { chunkSamples := 5 }
    let source : Source := { later := [.burst [1, 0, 1, 1], .interrupted, .burst [0, 0, 1, 1],
      .failed "device lost"] }
    let source' : Source := .ofBytes [1, 0, 1, 1, 0, 0, 1, 1, 1, 1, 0]
    let sink : Sink := {}
    ∃ p p', plan settings device = .ok p ∧ p.cutting.blockSize ≤ memoryLimit ∧
      source.fault = some "device lost" ∧ sink.NeverFails ∧
      plan { settings with stream } device = .ok p' ∧ p'.cutting.blockSize ≤ memoryLimit ∧
      source.bytes <+: source'.bytes ∧ source'.fault = none ∧
      ∃ report rest,
        p.session.report (openPackets 1 (some 4) [1, 0, 1, 1, 0, 0]) = .ok report ∧
        (∃ failure, (run settings device source sink).result = .error failure ∧
          failure.message = "failed to read capture" ∧ failure.causes = ["device lost"]) ∧
        (run settings device source sink).sink.flushedAt = sink.flushedAt ∧
        (run settings device source sink).sink.received.toList
          = sink.received.toList ++ Consumer.bytesOf report ∧
        (run { settings with stream } device source' sink).Reports sink (report ++ rest) := by
  intro device settings stream source source' sink
  obtain ⟨p, hplan⟩ : ∃ p, plan settings device = .ok p := exists_plan (by decide)
  obtain ⟨p', hplan'⟩ : ∃ p', plan { settings with stream } device = .ok p' :=
    exists_plan (by decide)
  have hroom : p.cutting.blockSize ≤ memoryLimit := by
    rw [blockSize_of_plan hplan]
    decide
  have hroom' : p'.cutting.blockSize ≤ memoryLimit := by
    rw [blockSize_of_plan hplan']
    decide
  have hfault : source.fault = some "device lost" := rfl
  have hfault' : source'.fault = none := rfl
  have hsink : sink.NeverFails := ⟨by decide, rfl, rfl⟩
  have hbegin : source.bytes <+: source'.bytes := ⟨[1, 1, 0], rfl⟩
  obtain ⟨report, hreport, hfailed, hflushed, hreceived, hlonger⟩ :=
    run_fault hplan hroom hfault hsink
  have hfront : source.bytes.take (source.bytes.length / (max settings.stream.chunkSamples 1
      * settings.input.sampleSize) * max settings.stream.chunkSamples 1
      * settings.input.sampleSize) = [1, 0, 1, 1, 0, 0] := by decide
  rw [hfront] at hreport
  obtain ⟨rest, hrest⟩ := hlonger stream p' source' sink hplan' hroom' hbegin hfault' hsink
  exact ⟨p, p', hplan, hroom, hfault, hsink, hplan', hroom', hbegin, hfault', report, rest,
    hreport, hfailed, hflushed, hreceived, hrest⟩

end CaptureReport.Stream
