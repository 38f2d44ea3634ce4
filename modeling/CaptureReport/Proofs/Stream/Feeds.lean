import CaptureReport.Proofs.Samples
import CaptureReport.Proofs.Stream.Source
import CaptureReport.Stream.Reader
import Mathlib.Data.List.Basic

/-!
# What the reader feeds

The feeds of a capture are its blocks, in order and with nothing lost, at most one trigger among
them, and the end of the stream behind them. A trigger stands where as many complete samples have
been fed as it was asked for. If these are all there are, it stands behind the last block, and with
it behind whatever is left of an incomplete sample.

Every round of the reader feeds one block, so the proof goes from the back: feeds that carry the
rest of the capture carry all of it once the feeds of one more block stand before them.

## Main results

* `Reader.round_cases`: what a round does, all cases.
* `Reader.cut_carries`: the feeds of one block, split or not, before those of the rest.
* `Reader.run_spec`: what a reader feeds, and what it has to tell.
* `Reader.run_conveys`: what that means for its feeds, one property at a time.
-/

namespace CaptureReport.Stream

/-- The blocks among feeds. -/
def blocksOf (feeds : List Feed) : List (List UInt8) :=
  feeds.filterMap fun
    | .block data => some data
    | _ => none

/-- Blocks that **cut** a capture: none is empty or too long, and all but the last hold whole
samples. -/
structure Cuts (c : Cutting) (data : List UInt8) (blocks : List (List UInt8)) : Prop where
  flatten : blocks.flatten = data
  sizes : ∀ block ∈ blocks, block ≠ [] ∧ block.length ≤ c.blockSize
  whole : AtSampleBoundaries c.unitSize blocks

/-- Feeds that **carry** a capture whose first sample has the number `start`, with a trigger to be
reported at a sample that is not before it. -/
inductive Carries (c : Cutting) (start : Nat) (trigger : Option Nat) (data : List UInt8) :
    List Feed → Prop
  /-- The trigger, if there is one, lies past the end. -/
  | plain {blocks : List (List UInt8)} (hcuts : Cuts c data blocks)
      (hpast : ∀ k ∈ trigger, start + data.length / c.unitSize < k) :
      Carries c start trigger data (blocks.map .block ++ [.finish])
  /-- The trigger stands behind the samples before it, or at the end behind all bytes. -/
  | marked {k : Nat} {before after : List (List UInt8)} (htrigger : trigger = some k)
      (hwithin : k ≤ start + data.length / c.unitSize) (hcuts : Cuts c data (before ++ after))
      (hplace : before.flatten.length = if k = start + data.length / c.unitSize then data.length
        else (k - start) * c.unitSize) :
      Carries c start trigger data
        (before.map .block ++ .trigger :: (after.map .block ++ [.finish]))

/-- What is told of a trigger that lies past the end. -/
def pastEnd (trigger : Option Nat) (total : Nat) : List Notice :=
  match trigger with
  | some k => if total < k then [.triggerPastEnd k total] else []
  | none => []

variable {c : Cutting}

/-- One more block in front. A block that ends within a sample has nothing behind it. -/
theorem Cuts.cons {data rest : List UInt8} {blocks : List (List UInt8)} (h : Cuts c rest blocks)
    (hne : data ≠ []) (hle : data.length ≤ c.blockSize)
    (hwhole : c.unitSize ∣ data.length ∨ rest = []) : Cuts c (data ++ rest) (data :: blocks) where
  flatten := by rw [List.flatten_cons, h.flatten]
  sizes := by
    intro block hblock
    rcases List.mem_cons.mp hblock with rfl | hrest
    · exact ⟨hne, hle⟩
    · exact h.sizes block hrest
  whole := by
    cases blocks with
    | nil =>
      intro block hblock
      cases hblock
    | cons next blocks =>
      have hdvd : c.unitSize ∣ data.length := by
        refine hwhole.resolve_right fun hrest => (h.sizes next List.mem_cons_self).1 ?_
        have hflat := h.flatten
        rw [hrest, List.flatten_cons, List.append_eq_nil_iff] at hflat
        exact hflat.1
      intro block hblock
      rw [List.dropLast_cons_cons] at hblock
      rcases List.mem_cons.mp hblock with rfl | hrest
      · exact hdvd
      · exact h.whole block hrest

theorem cuts_nil (c : Cutting) : Cuts c [] [] :=
  ⟨rfl, fun _ h => absurd h List.not_mem_nil, fun _ h => absurd h List.not_mem_nil⟩

/-- The samples of a block are counted apart from those behind it. -/
theorem length_append_div {data rest : List UInt8} (hwhole : c.unitSize ∣ data.length ∨ rest = []) :
    (data ++ rest).length / c.unitSize = data.length / c.unitSize + rest.length / c.unitSize := by
  rcases hwhole with ⟨count, hcount⟩ | rfl
  · rw [List.length_append, hcount, Nat.mul_add_div c.unitSize_pos,
      Nat.mul_div_cancel_left _ c.unitSize_pos]
  · rw [List.append_nil, List.length_nil, Nat.zero_div, Nat.add_zero]

/-! ### One block more -/

variable {start : Nat} {trigger : Option Nat} {data rest : List UInt8} {feeds : List Feed}

/-- A block before the trigger. -/
theorem Carries.cons (h : Carries c (start + data.length / c.unitSize) trigger rest feeds)
    (hstart : ∀ k ∈ trigger, start + data.length / c.unitSize ≤ k) (hne : data ≠ [])
    (hle : data.length ≤ c.blockSize) (hwhole : c.unitSize ∣ data.length ∨ rest = []) :
    Carries c start trigger (data ++ rest) (.block data :: feeds) := by
  have hcount := length_append_div hwhole
  cases h with
  | plain hcuts hpast =>
    refine .plain (hcuts.cons hne hle hwhole) fun k hk => ?_
    have hlt := hpast k hk
    omega
  | marked htrigger hwithin hcuts hplace =>
    rename_i k before after
    have hk := hstart k htrigger
    show Carries c start trigger (data ++ rest)
      ((data :: before).map .block ++ .trigger :: (after.map .block ++ [.finish]))
    refine .marked htrigger (by omega) (hcuts.cons hne hle hwhole) ?_
    rw [List.flatten_cons, List.length_append, hplace, hcount, ← Nat.add_assoc, List.length_append]
    split
    · rfl
    · rename_i hlt
      have hsum : k - start
          = data.length / c.unitSize + (k - (start + data.length / c.unitSize)) := by
        rw [Nat.sub_add_eq, Nat.add_sub_cancel' (Nat.le_sub_of_add_le' hk)]
      -- Here something is left behind the block, so it holds whole samples.
      have hdvd : c.unitSize ∣ data.length := by
        refine hwhole.resolve_right fun hrest => hlt ?_
        rw [hrest, List.length_nil, Nat.zero_div] at hwithin ⊢
        omega
      rw [hsum, Nat.add_mul, Nat.div_mul_cancel hdvd]

/-- A block that is split at the trigger. -/
theorem Carries.split {k : Nat} (h : Carries c (start + data.length / c.unitSize) none rest feeds)
    (hstart : start ≤ k) (hlt : k < start + data.length / c.unitSize)
    (hle : data.length ≤ c.blockSize) (hwhole : c.unitSize ∣ data.length ∨ rest = []) :
    Carries c start (some k) (data ++ rest)
      ((if (data.take ((k - start) * c.unitSize)).isEmpty then []
          else [.block (data.take ((k - start) * c.unitSize))]) ++
        .trigger :: .block (data.drop ((k - start) * c.unitSize)) :: feeds) := by
  set place := (k - start) * c.unitSize with hplace
  have hcount := length_append_div hwhole
  have hroom : place + c.unitSize ≤ data.length := by
    calc place + c.unitSize = (k - start + 1) * c.unitSize := by rw [Nat.succ_mul]
      _ ≤ data.length / c.unitSize * c.unitSize := Nat.mul_le_mul_right _ (by omega)
      _ ≤ data.length := Nat.div_mul_le_self _ _
  have hpos := c.unitSize_pos
  have hbefore : (data.take place).length = place := by rw [List.length_take]; omega
  have hafter : data.drop place ≠ [] := by
    intro hnil
    have hlen := congrArg List.length hnil
    rw [List.length_drop, List.length_nil] at hlen
    omega
  have hdropped : c.unitSize ∣ (data.drop place).length ∨ rest = [] := by
    refine hwhole.imp (fun hdvd => ?_) id
    rw [List.length_drop]
    exact Nat.dvd_sub hdvd ⟨k - start, by rw [hplace, Nat.mul_comm]⟩
  have hwithin : start + data.length / c.unitSize
      ≤ start + (data ++ rest).length / c.unitSize := by
    rw [hcount]
    exact Nat.add_le_add_left (Nat.le_add_right _ _) _
  have hne : k ≠ start + (data ++ rest).length / c.unitSize := by omega
  cases h with
  | marked htrigger => cases htrigger
  | plain hcuts hpast =>
    rename_i blocks
    have htail := hcuts.cons hafter (by rw [List.length_drop]; omega) hdropped
    by_cases hempty : data.take place = []
    · have hzero : place = 0 := by rw [← hbefore, hempty]; rfl
      rw [hempty, hzero, List.drop_zero]
      rw [hzero, List.drop_zero] at htail
      show Carries c start (some k) (data ++ rest)
        (([] : List (List UInt8)).map .block ++
          .trigger :: ((data :: blocks).map .block ++ [.finish]))
      refine .marked rfl (by omega) htail ?_
      rw [if_neg hne, ← hplace, hzero]
      rfl
    · have hdvd : c.unitSize ∣ (data.take place).length ∨ data.drop place ++ rest = [] :=
        .inl ⟨k - start, by rw [hbefore, hplace, Nat.mul_comm]⟩
      have hall := htail.cons hempty (by omega) hdvd
      rw [← List.append_assoc, List.take_append_drop] at hall
      rw [if_neg (by rwa [List.isEmpty_iff])]
      show Carries c start (some k) (data ++ rest)
        ([data.take place].map .block ++
          .trigger :: ((data.drop place :: blocks).map .block ++ [.finish]))
      refine .marked rfl (by omega) hall ?_
      rw [if_neg hne, List.flatten_singleton, hbefore, hplace]

/-! ### Rounds -/

theorem pastEnd_filter {trigger : Option Nat} {next total : Nat} (h : next ≤ total) :
    pastEnd (trigger.filter (next ≤ ·)) total = pastEnd trigger total := by
  cases trigger with
  | none => rfl
  | some k =>
    by_cases hk : next ≤ k
    · rw [Option.filter_some_pos (by exact decide_eq_true hk)]
    · rw [Option.filter_some_neg (by simpa using hk)]
      exact (if_neg (by omega)).symm

namespace Reader

variable {r : Reader}

/-- What is still to come after a block is a trigger that lies behind it. -/
theorem cut_later (c : Cutting) (data : List UInt8) (hstart : ∀ k ∈ r.trigger, r.position ≤ k) :
    (r.cut c data).2 = r.trigger.filter (r.position + data.length / c.unitSize ≤ ·) := by
  rw [cut]
  cases htrigger : r.trigger with
  | none => rfl
  | some k =>
    have hk := hstart k htrigger
    by_cases hlt : k < r.position + data.length / c.unitSize
    · rw [Option.filter_some_neg (by simpa using hlt)]
      exact congrArg Prod.snd (if_pos ⟨hk, hlt⟩)
    · rw [Option.filter_some_pos (by simpa using hlt)]
      exact congrArg Prod.snd (if_neg fun h => hlt h.2)

/-- The reader behind a block. -/
def after (c : Cutting) (r : Reader) (data : List UInt8) (source : Source) : Reader where
  source
  position := r.position + data.length / c.unitSize
  trigger := (r.cut c data).2

theorem after_start (c : Cutting) (data : List UInt8) (source : Source)
    (hstart : ∀ k ∈ r.trigger, r.position ≤ k) :
    ∀ k ∈ (r.after c data source).trigger, (r.after c data source).position ≤ k := by
  intro k hk
  rw [after, cut_later c data hstart] at hk
  exact of_decide_eq_true (Option.mem_filter_iff.mp hk).2

theorem pastEnd_after {source : Source} {total : Nat} (hstart : ∀ k ∈ r.trigger, r.position ≤ k)
    (htotal : r.position + data.length / c.unitSize ≤ total) :
    pastEnd (r.after c data source).trigger total = pastEnd r.trigger total := by
  rw [after, cut_later c data hstart, pastEnd_filter htotal]

/-- A block that the trigger does not lie in is fed as it is. -/
theorem cut_of_outside (h : ∀ k ∈ r.trigger, ¬ k < r.position + data.length / c.unitSize) :
    (r.cut c data).1 = [.block data] := by
  rw [cut]
  split
  · rfl
  · rename_i k htrigger
    rw [if_neg fun hin => h k htrigger hin.2]

/-- A block that the trigger lies in is fed in two parts; the first one is left out if it is
empty. -/
theorem cut_of_inside {k : Nat} (htrigger : r.trigger = some k) (hk : r.position ≤ k)
    (hlt : k < r.position + data.length / c.unitSize) :
    (r.cut c data).1 =
      (if (data.take ((k - r.position) * c.unitSize)).isEmpty then []
        else [.block (data.take ((k - r.position) * c.unitSize))]) ++
      [.trigger, .block (data.drop ((k - r.position) * c.unitSize))] := by
  simp only [cut, htrigger, hk, hlt, true_and, if_true, List.splitAt_eq]

/-- The feeds of a block are blocks and a trigger. -/
theorem kind_of_mem_cut {feed : Feed} (h : feed ∈ (r.cut c data).1) :
    feed = .trigger ∨ ∃ block, feed = .block block := by
  rw [cut] at h
  split at h
  · exact .inr ⟨data, List.mem_singleton.mp h⟩
  · split at h
    · rcases List.mem_append.mp h with hbefore | hafter
      · split at hbefore
        · cases hbefore
        · exact .inr ⟨_, List.mem_singleton.mp hbefore⟩
      · rcases List.mem_cons.mp hafter with rfl | hblock
        · exact .inl rfl
        · exact .inr ⟨_, List.mem_singleton.mp hblock⟩
    · exact .inr ⟨data, List.mem_singleton.mp h⟩

/-- **The feeds of one block before those of the rest.** -/
theorem cut_carries (hstart : ∀ k ∈ r.trigger, r.position ≤ k) (hne : data ≠ [])
    (hle : data.length ≤ c.blockSize) (hwhole : c.unitSize ∣ data.length ∨ rest = [])
    (h : Carries c (r.position + data.length / c.unitSize) (r.cut c data).2 rest feeds) :
    Carries c r.position r.trigger (data ++ rest) ((r.cut c data).1 ++ feeds) := by
  rw [cut_later c data hstart] at h
  rcases Classical.em (∃ k ∈ r.trigger, k < r.position + data.length / c.unitSize) with
    ⟨k, htrigger, hlt⟩ | hout
  · have hk := hstart k htrigger
    rw [cut_of_inside htrigger hk hlt, List.append_assoc]
    rw [Option.mem_def] at htrigger
    rw [htrigger, Option.filter_some_neg (by simpa using hlt)] at h
    rw [htrigger]
    exact h.split hk hlt hle hwhole
  · have hbehind : ∀ k ∈ r.trigger, r.position + data.length / c.unitSize ≤ k :=
      fun k hk => Nat.not_lt.mp fun hlt => hout ⟨k, hk, hlt⟩
    have hsame : r.trigger.filter (r.position + data.length / c.unitSize ≤ ·) = r.trigger := by
      cases htrigger : r.trigger with
      | none => rfl
      | some k => exact Option.filter_some_pos (decide_eq_true (hbehind k htrigger))
    rw [cut_of_outside fun k hk hlt => hout ⟨k, hk, hlt⟩]
    rw [hsame] at h
    exact h.cons hbehind hne hle hwhole

/-- Whole samples in front leave as much of the last one over. -/
theorem leftover_append (hdvd : c.unitSize ∣ data.length) :
    leftover c (data ++ rest) = leftover c rest := by
  obtain ⟨count, hcount⟩ := hdvd
  rw [leftover, List.length_append, hcount, Nat.mul_add_mod]
  rfl

/-- The last round carries no bytes. -/
theorem finish_spec (hstart : ∀ k ∈ r.trigger, r.position ≤ k) :
    Carries c r.position r.trigger [] r.finish.feeds ∧
      r.finish.notices = pastEnd r.trigger r.position := by
  have hzero : ([] : List UInt8).length / c.unitSize = 0 := Nat.zero_div _
  rw [finish]
  cases htrigger : r.trigger with
  | none => exact ⟨.plain (cuts_nil c) fun k hk => absurd hk (Option.not_mem_none k), rfl⟩
  | some k =>
    have hk := hstart k htrigger
    by_cases heq : k = r.position
    · have hcarries : Carries c r.position (some k) []
          (([] : List (List UInt8)).map .block ++
            .trigger :: (([] : List (List UInt8)).map .block ++ [.finish])) :=
        .marked rfl (by omega) (cuts_nil c) (by rw [if_pos (by omega)]; rfl)
      have hsilent : pastEnd (some k) r.position = [] := if_neg (by omega)
      rw [hsilent]
      simpa [heq] using hcarries
    · have hlt : r.position < k := Nat.lt_of_le_of_ne hk (Ne.symm heq)
      have hcarries : Carries c r.position (some k) []
          (([] : List (List UInt8)).map .block ++ [.finish]) :=
        .plain (cuts_nil c) fun k' hk' => by
          cases hk'
          omega
      have htold : pastEnd (some k) r.position = [.triggerPastEnd k r.position] := if_pos hlt
      rw [htold]
      simpa [heq] using hcarries

/-- **What a round does.** It fails with the source, finds that nothing more comes, feeds a last
block that is short, or feeds a full one and goes on. -/
theorem round_cases (c : Cutting) (r : Reader) :
    (∃ message, r.source.bytes.length < c.blockSize ∧ r.source.fault = some message ∧
      r.round c = { feeds := [.failed message] }) ∨
    (∃ source, r.source.bytes = [] ∧ r.source.fault = none ∧
      r.round c = finish { r with source }) ∨
    (∃ source, r.source.bytes ≠ [] ∧ r.source.bytes.length < c.blockSize ∧
      r.source.fault = none ∧
      r.round c = {
        feeds := (r.cut c r.source.bytes).1 ++ (r.after c r.source.bytes source).finish.feeds
        notices := leftover c r.source.bytes ++
          (r.after c r.source.bytes source).finish.notices }) ∨
    (∃ source, c.blockSize ≤ r.source.bytes.length ∧
      source.bytes = r.source.bytes.drop c.blockSize ∧ source.fault = r.source.fault ∧
      r.round c = {
        feeds := (r.cut c (r.source.bytes.take c.blockSize)).1
        notices := leftover c (r.source.bytes.take c.blockSize)
        next := some (r.after c (r.source.bytes.take c.blockSize) source) }) := by
  have hfill := Source.fill_spec r.source c.blockSize
  have hblock := c.blockSize_pos
  rcases hres : r.source.fill c.blockSize with ⟨message | data, source⟩
  · rw [hres] at hfill
    obtain ⟨hshort, hfault⟩ := hfill
    exact .inl ⟨message, hshort, hfault, by rw [round, hres]⟩
  · rw [hres] at hfill
    obtain ⟨hdata, hrest, hstop⟩ := hfill
    rcases Nat.lt_or_ge r.source.bytes.length c.blockSize with hshort | hroom
    · -- A block that is not full is all there is.
      have hall : data = r.source.bytes := by
        rw [hdata, List.take_of_length_le (Nat.le_of_lt hshort)]
      rw [hall] at hres
      cases hbytes : r.source.bytes with
      | nil =>
        rw [hbytes] at hres
        exact .inr (.inl ⟨source, rfl, hstop hshort, by rw [round, hres]⟩)
      | cons byte more =>
        rw [hbytes] at hres hshort
        refine .inr (.inr (.inl ⟨source, List.cons_ne_nil _ _, hshort, hstop ?_, ?_⟩))
        · rwa [hbytes]
        · rw [round, hres]
          simp only [if_pos hshort]
          rfl
    · obtain ⟨hbytes, hfault⟩ := hrest hroom
      refine .inr (.inr (.inr ⟨source, hroom, hbytes, hfault, ?_⟩))
      have hfull : ¬ data.length < c.blockSize := by
        rw [hdata, List.length_take]
        omega
      rw [← hdata, round, hres]
      cases data with
      | nil => exact absurd hblock hfull
      | cons byte more =>
        simp only [if_neg hfull]
        rfl

/-- **One round.** After the last one everything has been fed and told; before another one, a full
block has. -/
theorem round_spec (hstart : ∀ k ∈ r.trigger, r.position ≤ k) (hfault : r.source.fault = none) :
    match (r.round c).next with
    | none =>
      Carries c r.position r.trigger r.source.bytes (r.round c).feeds ∧
        (r.round c).notices = leftover c r.source.bytes ++
          pastEnd r.trigger (r.position + r.source.bytes.length / c.unitSize)
    | some next => ∃ data source, data.length = c.blockSize ∧
        r.source.bytes = data ++ source.bytes ∧ source.fault = none ∧
        (r.round c).feeds = (r.cut c data).1 ∧ (r.round c).notices = [] ∧
        next = r.after c data source := by
  rcases round_cases c r with ⟨message, -, hfailed, -⟩ | ⟨source, hnil, -, hround⟩ |
    ⟨source, hne, hshort, -, hround⟩ | ⟨source, hroom, hbytes, hsource, hround⟩
  · rw [hfault] at hfailed
    cases hfailed
  · have hlast := finish_spec (c := c) (r := { r with source }) hstart
    rw [hround, hnil]
    simp only [next_finish]
    refine ⟨hlast.1, ?_⟩
    rw [hlast.2, leftover, List.length_nil, if_pos (Nat.zero_mod _), Nat.zero_div]
    rfl
  · have hlast := finish_spec (c := c) (after_start c r.source.bytes source hstart)
    have hcarries := cut_carries hstart hne (Nat.le_of_lt hshort) (.inr rfl) hlast.1
    rw [List.append_nil] at hcarries
    rw [hround]
    refine ⟨hcarries, congrArg _ (hlast.2.trans ?_)⟩
    exact pastEnd_after hstart (Nat.le_refl _)
  · have hfull : (r.source.bytes.take c.blockSize).length = c.blockSize := by
      rw [List.length_take, Nat.min_eq_left hroom]
    rw [hround]
    refine ⟨_, source, hfull, ?_, hsource.trans hfault, rfl, ?_, rfl⟩
    · rw [hbytes, List.take_append_drop]
    · rw [leftover, hfull, Cutting.blockSize, Nat.mul_mod_right, if_pos rfl]

/-- **What a reader feeds, and what it has to tell.** -/
theorem run_spec (hstart : ∀ k ∈ r.trigger, r.position ≤ k) (hfault : r.source.fault = none) :
    Carries c r.position r.trigger r.source.bytes (r.run c).1 ∧
      (r.run c).2 = leftover c r.source.bytes ++
        pastEnd r.trigger (r.position + r.source.bytes.length / c.unitSize) := by
  fun_induction run c r with
  | case1 r feeds notices hround =>
    have hspec := round_spec (c := c) hstart hfault
    rw [hround] at hspec
    exact hspec
  | case2 r feeds notices next hround laterFeeds laterNotices hrun ih =>
    have hspec := round_spec (c := c) hstart hfault
    rw [hround] at hspec
    obtain ⟨data, source, hfull, hbytes, hnext, rfl, rfl, rfl⟩ := hspec
    obtain ⟨hcarries, htold⟩ := ih (after_start c data source hstart) hnext
    have hdvd : c.unitSize ∣ data.length := ⟨c.chunkSamples, hfull⟩
    have hne : data ≠ [] := by
      rw [← List.length_pos_iff, hfull]
      exact c.blockSize_pos
    rw [hrun] at hcarries htold
    rw [hbytes]
    refine ⟨cut_carries hstart hne (Nat.le_of_eq hfull) (.inl hdvd) hcarries, ?_⟩
    refine htold.trans ?_
    rw [length_append_div (.inl hdvd), ← Nat.add_assoc, leftover_append hdvd]
    exact congrArg _ (pastEnd_after hstart (Nat.le_add_right _ _))

end Reader

/-! ### What can be asked of the feeds -/

/-- Feeds that **convey** a capture. They are blocks and at most one trigger, and the end of the
stream behind them. Nothing is lost, doubled or moved; a trigger is among them exactly if the
capture reaches the sample it was asked for, and it stands behind the samples before that one. A
trigger at the very end stands behind the rest of an incomplete sample as well. -/
structure Conveys (c : Cutting) (trigger : Option Nat) (data : List UInt8) (feeds : List Feed) :
    Prop where
  ends : ∃ front, feeds = front ++ [.finish] ∧
    ∀ feed ∈ front, feed = .trigger ∨ ∃ block, feed = .block block
  once : feeds.count .trigger ≤ 1
  cuts : Cuts c data (blocksOf feeds)
  triggered : .trigger ∈ feeds ↔ ∃ k ∈ trigger, k ≤ data.length / c.unitSize
  place : ∀ k ∈ trigger, ∀ before after, feeds = before ++ .trigger :: after →
    (blocksOf before).flatten.length =
      if k = data.length / c.unitSize then data.length else k * c.unitSize

@[simp] theorem blocksOf_map (blocks : List (List UInt8)) :
    blocksOf (blocks.map .block) = blocks := by
  rw [blocksOf, List.filterMap_map]
  exact List.filterMap_some

@[simp] theorem blocksOf_append (feeds later : List Feed) :
    blocksOf (feeds ++ later) = blocksOf feeds ++ blocksOf later :=
  List.filterMap_append

@[simp] theorem blocksOf_trigger (feeds : List Feed) :
    blocksOf (.trigger :: feeds) = blocksOf feeds :=
  rfl

@[simp] theorem blocksOf_finish : blocksOf [.finish] = [] :=
  rfl

theorem trigger_notMem_map (blocks : List (List UInt8)) : Feed.trigger ∉ blocks.map Feed.block := by
  simp

theorem exists_block_of_mem_map {blocks : List (List UInt8)} {feed : Feed}
    (h : feed ∈ blocks.map Feed.block) : ∃ block, feed = .block block := by
  obtain ⟨block, -, rfl⟩ := List.mem_map.mp h
  exact ⟨block, rfl⟩

/-- Feeds that carry a capture from its first sample on convey it. -/
theorem Carries.conveys (h : Carries c 0 trigger data feeds) : Conveys c trigger data feeds := by
  cases h with
  | plain hcuts hpast =>
    rename_i blocks
    have hnone : Feed.trigger ∉ blocks.map Feed.block ++ [.finish] := by
      simp
    refine ⟨⟨blocks.map .block, rfl, ?_⟩, ?_, by simpa using hcuts, ?_, ?_⟩
    · exact fun feed hfeed => .inr (exists_block_of_mem_map hfeed)
    · rw [List.count_eq_zero.mpr hnone]
      exact Nat.zero_le 1
    · refine ⟨fun hmem => absurd hmem hnone, ?_⟩
      rintro ⟨k, hk, hle⟩
      have hlt := hpast k hk
      omega
    · intro k hk before after heq
      rw [heq] at hnone
      exact absurd (List.mem_append_right before List.mem_cons_self) hnone
  | marked htrigger hwithin hcuts hplace =>
    rename_i k before after
    rw [Nat.zero_add] at hwithin hplace
    have htail : Feed.trigger ∉ after.map Feed.block ++ [.finish] := by
      simp
    refine ⟨⟨before.map .block ++ .trigger :: after.map .block, ?_, ?_⟩, ?_, ?_, ?_, ?_⟩
    · rw [List.append_assoc, List.cons_append]
    · intro feed hfeed
      rcases List.mem_append.mp hfeed with hfront | hback
      · exact .inr (exists_block_of_mem_map hfront)
      · exact (List.mem_cons.mp hback).imp_right exists_block_of_mem_map
    · refine Nat.le_of_eq ?_
      rw [List.count_append, List.count_cons_self,
        List.count_eq_zero.mpr (trigger_notMem_map before), List.count_eq_zero.mpr htail,
        Nat.zero_add, Nat.zero_add]
    · simpa using hcuts
    · refine ⟨fun _ => ⟨k, htrigger, hwithin⟩, fun _ => ?_⟩
      exact List.mem_append_right _ List.mem_cons_self
    · intro k' hk' before' after' heq
      obtain rfl : k = k' := Option.some.inj (htrigger.symm.trans hk')
      -- There is one trigger only, so it can be found in one place only.
      obtain ⟨rfl, -, -⟩ :=
        (List.append_cons_inj_of_notMem (trigger_notMem_map before) htail).mp heq
      rw [blocksOf_map, hplace, Nat.sub_zero]

/-- **What a reader feeds conveys the capture**, however its bytes come in, if there is room for a
block. What it has to tell is how much is left of an incomplete sample, and that the trigger lies
past the end, if it does. -/
theorem Reader.run_conveys {c : Cutting} (hroom : c.blockSize ≤ memoryLimit)
    (trigger : Option Nat) {source : Source} (hfault : source.fault = none) :
    ∃ feeds, Reader.feed? c { source, trigger } = some (feeds, Reader.leftover c source.bytes ++
        pastEnd trigger (source.bytes.length / c.unitSize)) ∧
      Conveys c trigger source.bytes feeds := by
  obtain ⟨hcarries, htold⟩ := Reader.run_spec (c := c) (r := { source, trigger })
    (fun k _ => Nat.zero_le k) hfault
  rw [Nat.zero_add] at htold
  refine ⟨(Reader.run c { source, trigger }).1, ?_, hcarries.conveys⟩
  rw [Reader.feed?_of_room hroom, ← htold]

/-- A trigger at the very end stands behind the odd byte of a capture, not right behind the samples
before it. -/
theorem trigger_behind_leftover :
    let c : Cutting := ⟨2, 4, by decide, by decide⟩
    let source : Source := .ofBytes [1, 2, 3, 4, 5]
    c.blockSize ≤ memoryLimit ∧ source.fault = none ∧ 2 ≤ source.bytes.length / c.unitSize ∧
      ∃ before after told,
        Reader.feed? c { source, trigger := some 2 } = some (before ++ .trigger :: after, told) ∧
        (blocksOf before).flatten.length ≠ 2 * c.unitSize := by
  intro c source
  have hroom : c.blockSize ≤ memoryLimit := by decide
  refine ⟨hroom, rfl, by decide, ?_⟩
  obtain ⟨hcarries, -⟩ := Reader.run_spec (c := c) (r := { source, trigger := some 2 })
    (fun k _ => Nat.zero_le k) rfl
  rw [Reader.feed?_of_room hroom]
  cases hrun : Reader.run c { source, trigger := some 2 } with
  | mk feeds told =>
    rw [hrun] at hcarries
    cases hcarries with
    | plain _ hpast => exact absurd (hpast 2 rfl) (by decide)
    | marked htrigger _ _ hplace =>
      cases htrigger
      refine ⟨_, _, _, rfl, ?_⟩
      rw [blocksOf_map, hplace]
      decide

/-- A capture that comes in three bursts and an interruption. -/
theorem run_conveys_bursts :
    let c : Cutting := ⟨2, 1, by decide, by decide⟩
    let source : Source := { later := [.burst [1, 2, 3], .interrupted, .burst [4], .burst [5]] }
    c.blockSize ≤ memoryLimit ∧ source.fault = none ∧
      ∃ feeds,
        Reader.feed? c { source, trigger := some 1 } = some (feeds, [.partialSample 1]) ∧
        Conveys c (some 1) [1, 2, 3, 4, 5] feeds := by
  intro c source
  have hroom : c.blockSize ≤ memoryLimit := by decide
  have hfault : source.fault = none := rfl
  have htold : Reader.leftover c source.bytes ++
      pastEnd (some 1) (source.bytes.length / c.unitSize) = [.partialSample 1] := by
    decide
  obtain ⟨feeds, hfeeds, hconveys⟩ := Reader.run_conveys hroom (some 1) hfault
  rw [htold] at hfeeds
  exact ⟨hroom, hfault, feeds, hfeeds, hconveys⟩

end CaptureReport.Stream
