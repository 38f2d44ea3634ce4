import CaptureReport.Proofs.Stream.Fault
import CaptureReport.Proofs.Stream.Room
import Mathlib.Algebra.Order.Floor.Div

/-!
# The totals of a run

A run that ends well tells how many blocks and samples it has encoded, how many triggers, and how
many bytes it has written, and it may have warned of an incomplete sample and of a trigger past the
end. All of this can be told beforehand from the length of the capture, the sizes it is cut into
and the sample of the trigger. How the source hands out the bytes does not matter, nor what the sink
is like as long as it takes all that is written to it.

The number of blocks is the only one of the totals that depends on how many samples go into a block:
there are as many as it takes to hold the capture, and one more if the trigger splits a block, which
a trigger at the beginning of a block does not.

## Main results

* `Consumer.drain_ok`: what the sink and the totals have gained when all feeds have been taken.
* `Reader.length_blocksOf_run`: how many blocks a reader feeds.
* `run_totals`: the totals, and all that is told, of a run that ends well.
-/

namespace CaptureReport.Stream

/-! ### What has been taken has been counted -/

namespace Consumer

variable {k k' : Consumer}

/-- A text that was written is with the sink, and its bytes are counted. -/
theorem write_ok {text : Option String} (h : k.write text = (.ok (), k')) :
    k.sink.Took (bytesOf (text.getD "")) k'.sink ∧
      k'.stats = { k.stats with
        bytesOut := k.stats.bytesOut + (text.getD "").utf8ByteSize } := by
  cases text with
  | none =>
    obtain rfl : k = k' := congrArg Prod.snd h
    exact ⟨.refl _, rfl⟩
  | some text =>
    rw [write] at h
    split at h
    · cases h
    · rename_i sink hwrite
      obtain rfl := congrArg Prod.snd h
      exact ⟨Sink.took_of_writeAll hwrite, rfl⟩

theorem send_ok {packet : Packet} (h : k.send packet = (.ok (), k')) :
    ∃ text, k.sink.Took (bytesOf text) k'.sink ∧
      k'.stats = { k.stats with bytesOut := k.stats.bytesOut + text.utf8ByteSize } := by
  rw [send] at h
  split at h
  · cases h
  · rename_i text session hsend
    exact ⟨_, write_ok (k := { k with session }) h⟩

/-- **One feed that was taken** is not a failure, and it and its text are counted. -/
theorem accept_ok {unitSize : Nat} {feed : Feed} (h : k.accept unitSize feed = (.ok (), k')) :
    (∀ message, feed ≠ .failed message) ∧
      ∃ text, k.sink.Took (bytesOf text) k'.sink ∧
        k'.stats = k.stats.add unitSize [feed] text := by
  cases feed with
  | failed message => cases h
  | block data | trigger | finish =>
    obtain ⟨text, htook, hstats⟩ := send_ok h
    exact ⟨fun message => Feed.noConfusion, text, htook, hstats⟩

/-- **All feeds, taken**: there is no failure among them, and the sink has gained as many bytes as
have been counted. -/
theorem drain_ok {unitSize : Nat} {feeds : List Feed} (h : k.drain unitSize feeds = (.ok (), k')) :
    (∀ message, .failed message ∉ feeds) ∧
      ∃ text, k'.sink.received.toList = k.sink.received.toList ++ bytesOf text ∧
        k'.stats = k.stats.add unitSize feeds text := by
  induction feeds generalizing k with
  | nil =>
    refine ⟨fun message => List.not_mem_nil, "", ?_⟩
    rw [drain, flush] at h
    split at h
    · cases h
    · rename_i sink hflush
      obtain rfl := congrArg Prod.snd h
      rw [Sink.flush] at hflush
      split at hflush
      · cases hflush
      · obtain rfl := congrArg Prod.snd hflush
        exact ⟨(List.append_nil _).symm, rfl⟩
  | cons feed feeds ih =>
    rw [drain] at h
    split at h
    · cases h
    · rename_i next haccept
      obtain ⟨hfirst, text, htook, hstats⟩ := accept_ok haccept
      obtain ⟨hrest, more, hreceived, htotals⟩ := ih h
      refine ⟨?_, text ++ more, ?_, ?_⟩
      · intro message hmem
        rcases List.mem_cons.mp hmem with heq | hlater
        · exact hfirst message heq.symm
        · exact hrest message hlater
      · rw [hreceived, htook.received, bytesOf_append, List.append_assoc]
      · rw [htotals, hstats, Stats.add_add, List.singleton_append]

end Consumer

/-! ### How many blocks there are -/

/-- How many blocks a trigger adds to those of a capture that ends before the sample `total`: one if
it splits a block, and none if it lies at the beginning of one or the capture ends before it. -/
def Cutting.splits (c : Cutting) (trigger : Option Nat) (total : Nat) : Nat :=
  if ∃ k ∈ trigger, k < total ∧ ¬ c.chunkSamples ∣ k then 1 else 0

section Counting

variable {c : Cutting} {trigger : Option Nat} {next total : Nat}

@[simp] theorem Cutting.splits_none (c : Cutting) (total : Nat) : c.splits none total = 0 :=
  if_neg (by simp)

theorem Cutting.splits_of_le (h : ∀ k ∈ trigger, total ≤ k) : c.splits trigger total = 0 := by
  refine if_neg ?_
  rintro ⟨k, hk, hlt, -⟩
  exact Nat.not_lt.mpr (h k hk) hlt

/-- A trigger splits a block before some sample, or one behind it. -/
theorem Cutting.splits_add (h : next ≤ total) :
    c.splits trigger next + c.splits (trigger.filter (next ≤ ·)) total
      = c.splits trigger total := by
  cases trigger with
  | none => simp
  | some k =>
    by_cases hk : next ≤ k
    · have hnone : c.splits (some k) next = 0 := splits_of_le fun k' hk' => by
        obtain rfl := Option.mem_some.mp hk'
        exact hk
      rw [Option.filter_some_pos (by exact decide_eq_true hk), hnone, Nat.zero_add]
    · have hlt : k < next := Nat.lt_of_not_le hk
      rw [Option.filter_some_neg (by simpa using hk), splits_none, Nat.add_zero, splits, splits]
      simp [hlt, Nat.lt_of_lt_of_le hlt h]

/-- Within a block there is one sample only that a whole number of blocks lies before. -/
theorem Cutting.dvd_iff_of_within {position k : Nat} (hposition : c.chunkSamples ∣ position)
    (hle : position ≤ k) (hlt : k < position + c.chunkSamples) :
    c.chunkSamples ∣ k ↔ k = position := by
  constructor
  · intro hk
    have hrest : k - position = 0 :=
      Nat.eq_zero_of_dvd_of_lt (Nat.dvd_sub hk hposition) (by omega)
    omega
  · rintro rfl
    exact hposition

end Counting

namespace Reader

variable {c : Cutting} {r : Reader} {data : List UInt8}

@[simp] theorem blocksOf_finish_feeds (r : Reader) : blocksOf r.finish.feeds = [] := by
  rw [finish]
  split
  · rfl
  · split <;> rfl

/-- **One block is fed as one, or as two** if the trigger splits it. -/
theorem length_blocksOf_cut (hstart : ∀ k ∈ r.trigger, r.position ≤ k)
    (hposition : c.chunkSamples ∣ r.position) (hle : data.length ≤ c.blockSize) :
    (blocksOf (r.cut c data).1).length
      = 1 + c.splits r.trigger (r.position + data.length / c.unitSize) := by
  have hcount : data.length / c.unitSize ≤ c.chunkSamples :=
    Nat.div_le_of_le_mul hle
  rcases Classical.em (∃ k ∈ r.trigger, k < r.position + data.length / c.unitSize) with
    ⟨k, htrigger, hlt⟩ | hout
  · have hk := hstart k htrigger
    have hdvd := c.dvd_iff_of_within hposition hk (by omega)
    have hempty : (data.take ((k - r.position) * c.unitSize)).isEmpty = true ↔ k = r.position := by
      have hroom : c.unitSize ≤ data.length := by
        by_contra hshort
        rw [Nat.div_eq_of_lt (Nat.lt_of_not_le hshort)] at hlt
        omega
      have hpos := c.unitSize_pos
      have hne : data ≠ [] := List.length_pos_iff.mp (by omega)
      rw [List.isEmpty_iff, List.take_eq_nil_iff, Nat.mul_eq_zero]
      constructor
      · rintro ((hzero | hzero) | hnil)
        · omega
        · omega
        · exact absurd hnil hne
      · intro heq
        exact .inl (.inl (by omega))
    rw [cut_of_inside htrigger hk hlt, Cutting.splits, Option.mem_def.mp htrigger]
    by_cases hfirst : k = r.position
    · rw [if_pos (hempty.mpr hfirst), if_neg]
      · rfl
      · rintro ⟨k', hk', -, hnot⟩
        obtain rfl := Option.mem_some.mp hk'
        exact hnot (hdvd.mpr hfirst)
    · rw [if_neg (mt hempty.mp hfirst), if_pos ⟨k, rfl, hlt, mt hdvd.mp hfirst⟩]
      rfl
  · have hbehind : ∀ k ∈ r.trigger, r.position + data.length / c.unitSize ≤ k :=
      fun k hk => Nat.not_lt.mp fun hlt => hout ⟨k, hk, hlt⟩
    rw [cut_of_outside fun k hk hlt => hout ⟨k, hk, hlt⟩, Cutting.splits_of_le hbehind]
    rfl

/-- **How many blocks a reader feeds**: as many as it takes to hold the bytes, and one more if the
trigger splits one. -/
theorem length_blocksOf_run (hstart : ∀ k ∈ r.trigger, r.position ≤ k)
    (hposition : c.chunkSamples ∣ r.position) (hfault : r.source.fault = none) :
    (blocksOf (r.run c).1).length = r.source.bytes.length ⌈/⌉ c.blockSize
      + c.splits r.trigger (r.position + r.source.bytes.length / c.unitSize) := by
  have hblock := c.blockSize_pos
  fun_induction run c r with
  | case1 r feeds notices hround =>
    rcases round_cases c r with ⟨message, -, hfailed, -⟩ | ⟨source, hnil, -, hlast⟩ |
      ⟨source, hne, hshort, -, hlast⟩ | ⟨source, -, -, -, hnext⟩
    · rw [hfault] at hfailed
      cases hfailed
    · rw [hround] at hlast
      obtain rfl : feeds = _ := congrArg Round.feeds hlast
      rw [hnil, List.length_nil, Nat.zero_div, zero_ceilDiv, Nat.add_zero,
        Cutting.splits_of_le hstart]
      exact congrArg List.length (blocksOf_finish_feeds _)
    · rw [hround] at hlast
      obtain rfl : feeds = _ := congrArg Round.feeds hlast
      have hone : r.source.bytes.length ⌈/⌉ c.blockSize = 1 := by
        have hpos := List.length_pos_iff.mpr hne
        rw [Nat.ceilDiv_eq_add_pred_div]
        exact Nat.div_eq_of_lt_le (by omega) (by omega)
      rw [blocksOf_append, blocksOf_finish_feeds, List.append_nil, hone]
      exact length_blocksOf_cut hstart hposition (Nat.le_of_lt hshort)
    · rw [hround] at hnext
      cases congrArg Round.next hnext
  | case2 r feeds notices next hround laterFeeds laterNotices hrun ih =>
    have hspec := round_spec (c := c) hstart hfault
    rw [hround] at hspec
    obtain ⟨data, source, hfull, hbytes, hnext, rfl, rfl, rfl⟩ := hspec
    have hchunk : data.length / c.unitSize = c.chunkSamples := by
      rw [hfull, Cutting.blockSize, Nat.mul_div_cancel_left _ c.unitSize_pos]
    have hlater := ih (after_start c data source hstart)
      (by rw [after, hchunk]; exact Nat.dvd_add hposition (Nat.dvd_refl _)) hnext
    have hceil : (data.length + source.bytes.length) ⌈/⌉ c.blockSize
        = 1 + source.bytes.length ⌈/⌉ c.blockSize := by
      have hsum : c.blockSize + source.bytes.length + c.blockSize - 1
          = source.bytes.length + c.blockSize - 1 + c.blockSize := by omega
      rw [hfull, Nat.ceilDiv_eq_add_pred_div, Nat.ceilDiv_eq_add_pred_div, hsum,
        Nat.add_div_right _ hblock, Nat.add_comm]
    have hcount : (data ++ source.bytes).length / c.unitSize
        = data.length / c.unitSize + source.bytes.length / c.unitSize :=
      length_append_div (.inl ⟨c.chunkSamples, hfull⟩)
    have hsplits : c.splits r.trigger (r.position + data.length / c.unitSize)
          + c.splits (r.after c data source).trigger
            (r.position + data.length / c.unitSize + source.bytes.length / c.unitSize)
        = c.splits r.trigger
            (r.position + data.length / c.unitSize + source.bytes.length / c.unitSize) := by
      rw [after, cut_later c data hstart]
      exact Cutting.splits_add (Nat.le_add_right _ _)
    rw [hrun] at hlater
    rw [blocksOf_append, List.length_append, hlater,
      length_blocksOf_cut hstart hposition (Nat.le_of_eq hfull), hbytes, hcount,
      List.length_append, hceil, ← Nat.add_assoc r.position, ← hsplits]
    exact Nat.add_add_add_comm ..

end Reader

/-! ### Runs that end well -/

variable {settings : Settings} {device : Device} {source : Source} {sink : Sink} {stats : Stats}

/-- A plan that ends well is one whose consumer does. -/
theorem Plan.exists_drain_of_run_ok {p : Plan} {trigger : Option Nat}
    (h : (p.run trigger source sink).result = .ok stats) :
    ∃ k, Consumer.drain p.cutting.unitSize (Reader.run p.cutting { source, trigger }).1
        { session := p.session, sink } = (.ok (), k) ∧
      k.stats = stats ∧
      p.run trigger source sink = {
        result := .ok k.stats
        notices := (Reader.run p.cutting { source, trigger }).2 ++ [.encoded k.stats]
        sink := k.sink } := by
  by_cases hroom : p.cutting.blockSize ≤ memoryLimit
  · cases hdrain : Consumer.drain p.cutting.unitSize
        (Reader.run p.cutting { source, trigger }).1 { session := p.session, sink } with
    | mk result k =>
      cases result with
      | error failure =>
        obtain ⟨-, hresult⟩ := p.run_drain hroom trigger source sink rfl hdrain
        rw [hresult] at h
        cases h
      | ok done =>
        have hrun := Plan.run_of_drain_ok (p := p) hroom rfl hdrain
        rw [hrun] at h
        exact ⟨k, rfl, Except.ok.inj h, hrun⟩
  · rw [(p.run_of_noRoom (Nat.not_le.mp hroom) trigger source sink).1] at h
    cases h

/-- Feeds among which there is no failure come from a source that ends without one. -/
theorem Reader.fault_eq_none_of_run {c : Cutting} {trigger : Option Nat}
    (h : ∀ message, .failed message ∉ (Reader.run c { source, trigger }).1) :
    source.fault = none := by
  cases hfault : source.fault with
  | none => rfl
  | some message =>
    obtain ⟨feeds, hfeeds, -, -⟩ := Reader.run_of_fault (c := c) (r := { source, trigger })
      (t := {}) (fun k _ => Nat.zero_le k) hfault rfl
    refine absurd ?_ (h message)
    rw [hfeeds]
    exact List.mem_append_right _ List.mem_cons_self

/-- A trigger that the capture reaches is counted once. -/
theorem length_toList_reached (unitSize : Nat) (trigger : Option Nat) (data : List UInt8) :
    (reached unitSize trigger data).toList.length
      = if ∃ k ∈ trigger, k ≤ data.length / unitSize then 1 else 0 := by
  cases hreached : reached unitSize trigger data with
  | none =>
    rw [if_neg]
    · rfl
    · rintro ⟨k, hk, hle⟩
      rw [reached_eq_some_iff.mpr ⟨hk, hle⟩] at hreached
      cases hreached
  | some k =>
    rw [if_pos ⟨k, reached_eq_some_iff.mp hreached⟩]
    rfl

/-- **The totals of a run that ends well**, and all that is told of it: nothing of this depends on
how the source hands out the bytes, or on the sink. -/
theorem run_totals (h : (run settings device source sink).result = .ok stats) :
    let unit := settings.input.sampleSize
    let chunk := max settings.stream.chunkSamples 1
    let trigger := settings.input.triggerAt
    let bytes := source.bytes.length
    let warnings := (if bytes % unit = 0 then [] else [Notice.partialSample (bytes % unit)]) ++
      pastEnd trigger (bytes / unit)
    source.fault = none ∧
      stats.samples = bytes / unit ∧
      (∃ written, (run settings device source sink).sink.received.toList
          = sink.received.toList ++ written ∧ stats.bytesOut = written.length) ∧
      stats.triggers = (if ∃ k ∈ trigger, k ≤ bytes / unit then 1 else 0) ∧
      stats.packets = bytes ⌈/⌉ (unit * chunk)
        + (if ∃ k ∈ trigger, k < bytes / unit ∧ ¬ chunk ∣ k then 1 else 0) ∧
      (run settings device source sink).notices.filter Notice.isWarning = warnings ∧
      (run settings device source sink).notices = warnings ++ [.encoded stats] := by
  intro unit chunk trigger bytes warnings
  cases hplan : plan settings device with
  | error failure =>
    rw [run_of_error hplan] at h
    cases h
  | ok p =>
    rw [run_of_ok hplan] at h ⊢
    obtain ⟨k, hdrain, rfl, hrun⟩ := Plan.exists_drain_of_run_ok h
    obtain ⟨hfeeds, text, hreceived, hstats⟩ := Consumer.drain_ok hdrain
    have hfault := Reader.fault_eq_none_of_run hfeeds
    have hstart : ∀ k ∈ trigger, 0 ≤ k := fun k _ => Nat.zero_le k
    obtain ⟨hcarries, htold⟩ :=
      Reader.run_spec (c := p.cutting) (r := { source, trigger }) hstart hfault
    have hblocks := Reader.length_blocksOf_run (c := p.cutting) (r := { source, trigger }) hstart
      (Nat.dvd_zero _) hfault
    obtain ⟨hsamples, htriggers⟩ := hcarries.totals
    have hunit := unitSize_of_plan hplan
    have hwarnings : Reader.leftover p.cutting source.bytes
        ++ pastEnd trigger (source.bytes.length / p.cutting.unitSize) = warnings := by
      rw [Reader.leftover, hunit]
    rw [Nat.zero_add] at htold
    rw [hrun, htold, filter_told, hwarnings]
    rw [Nat.zero_add, Cutting.splits, hunit, chunkSamples_of_plan hplan, blockSize_of_plan hplan]
      at hblocks
    rw [hunit] at hsamples htriggers hstats
    rw [hstats]
    refine ⟨hfault, (Nat.zero_add _).trans hsamples, ⟨_, hreceived, Nat.zero_add _⟩, ?_,
      (Nat.zero_add _).trans hblocks, rfl, rfl⟩
    exact (Nat.zero_add _).trans (htriggers.trans (length_toList_reached ..))

/-- Eight samples and an odd byte in blocks of three samples, the second one split at its second
sample, to a sink that takes five bytes at a time. -/
theorem run_totals_eight :
    let device : Device := { channels := [{ index := 9, name := "HI" }] }
    let settings : Settings :=
      { input := { unitSize := some 2, triggerAt := some 4 }, stream := { chunkSamples := 3 } }
    let source : Source := { later := [.burst [1, 2, 3, 4, 5, 6, 7], .interrupted,
      .burst [8, 9, 10, 11, 12, 13, 14, 15, 16, 17], .burst [], .burst [18]] }
    let sink : Sink := { perWrite := some 5 }
    ∃ stats, (run settings device source sink).result = .ok stats ∧
      stats.samples = 8 ∧ stats.triggers = 1 ∧ stats.packets = 4 ∧
      (run settings device source sink).sink.received.size = stats.bytesOut ∧
      (run settings device source sink).notices.filter Notice.isWarning = [.partialSample 1] ∧
      (run settings device source sink).notices = [.partialSample 1, .encoded stats] := by
  intro device settings source sink
  obtain ⟨p, hplan⟩ : ∃ p, plan settings device = .ok p := exists_plan (by decide)
  have hroom : p.cutting.blockSize ≤ memoryLimit := by
    rw [blockSize_of_plan hplan]
    decide
  have hsink : sink.NeverFails := ⟨by decide, rfl, rfl⟩
  have hfault : source.fault = none := rfl
  obtain ⟨stats, hok⟩ := (run_reports hplan hroom hfault hsink).ok
  obtain ⟨-, hsamples, ⟨written, hwritten, hbytes⟩, htriggers, hpackets, hwarnings, hnotices⟩ :=
    run_totals hok
  have hsize : (run settings device source sink).sink.received.size = stats.bytesOut := by
    rw [hbytes, ← Array.length_toList, hwritten]
    rfl
  have htold : (if source.bytes.length % settings.input.sampleSize = 0 then []
        else [Notice.partialSample (source.bytes.length % settings.input.sampleSize)])
      ++ pastEnd settings.input.triggerAt (source.bytes.length / settings.input.sampleSize)
        = [.partialSample 1] := by decide
  exact ⟨stats, hok, hsamples.trans (by decide), htriggers.trans (by decide),
    hpackets.trans (by decide), hsize, hwarnings.trans htold, hnotices.trans (by rw [htold]; rfl)⟩

end CaptureReport.Stream
