import CaptureReport.Proofs.Stream.Reports
import CaptureReport.Stream.Relay
import Mathlib.Logic.Relation

/-!
# The pace of reader and consumer does not matter

However the reader and the consumer of a run go along beside each other, and whatever the depth of
the queue between them, what comes of the run is what comes of it if the reader is let through to
its end first and the consumer is given all feeds then.

Two quantities stay the same in every step. What the consumer would make of the feeds it still has
to come, those in its hands, in the queue and with the reader, in this order, is fixed from the
beginning on: the **outlook**. And as long as the consumer has not turned away, the feeds it has
taken, those in the queue and those still with the reader are, put together, all feeds. A third
quantity gets smaller in every step, the **load** of work that is left, so that the two come to an
end; and as long as one of them is not gone there is a step for one of them to make.

## Main results

* `Relay.Step.outlook_eq`, `Relay.Accounts.step`: what one step leaves as it is.
* `Relay.Step.load_lt`: every step gets some of the work done.
* `Relay.outcome?_eq_none_iff`: the two never wait for each other.
* `run_relay`: what that means for runs.
-/

namespace CaptureReport.Stream

variable {c : Cutting} {depth : Nat}

/-! ### What is still with the reader -/

namespace Reader

/-- All feeds of a reader, if there is one. -/
def feedsOf (c : Cutting) : Option Reader → List Feed
  | none => []
  | some r => (r.run c).1

/-- All notices of a reader, if there is one. -/
def noticesOf (c : Cutting) : Option Reader → List Notice
  | none => []
  | some r => (r.run c).2

/-- A reader makes a round, and then whatever comes behind it. -/
theorem run_round (c : Cutting) (r : Reader) :
    r.run c = ((r.round c).feeds ++ feedsOf c (r.round c).next,
      (r.round c).notices ++ noticesOf c (r.round c).next) := by
  fun_cases run c r with
  | case1 feeds notices hround => simp [hround, feedsOf, noticesOf]
  | case2 feeds notices next hround laterFeeds laterNotices hrun =>
    simp [hround, feedsOf, noticesOf, hrun]

end Reader

namespace Feeder

/-- The feeds that are still with the reader. -/
def pending (c : Cutting) : Feeder → List Feed
  | reading r => (r.run c).1
  | sending feeds next => feeds ++ Reader.feedsOf c next
  | gone => []

/-- The notices that the reader has not told yet. -/
def untold (c : Cutting) : Feeder → List Notice
  | reading r => (r.run c).2
  | sending _ next => Reader.noticesOf c next
  | gone => []

/-- A round moves feeds from the reader's capture into its hands. -/
theorem pending_round (c : Cutting) (r : Reader) :
    pending c (sending (r.round c).feeds (r.round c).next) = pending c (reading r) := by
  rw [pending, pending, Reader.run_round]

theorem untold_round (c : Cutting) (r : Reader) :
    (r.round c).notices ++ untold c (sending (r.round c).feeds (r.round c).next)
      = untold c (reading r) := by
  rw [untold, untold, Reader.run_round]

@[simp] theorem pending_cons (c : Cutting) (feed : Feed) (feeds : List Feed)
    (next : Option Reader) :
    pending c (sending (feed :: feeds) next) = feed :: pending c (sending feeds next) :=
  rfl

/-- Between two rounds it does not matter which of them the next one is counted to. -/
@[simp] theorem pending_nil_some (c : Cutting) (r : Reader) :
    pending c (sending [] (some r)) = pending c (reading r) :=
  rfl

@[simp] theorem pending_nil_none (c : Cutting) : pending c (sending [] none) = [] :=
  rfl

@[simp] theorem pending_gone (c : Cutting) : pending c gone = [] :=
  rfl

end Feeder

/-! ### How much a party has to do -/

/-- How many steps are left to a reader that finds its feeds taken as soon as it has them, or more
than that. -/
def Feeder.load : Feeder → Nat
  | reading r => 2 * r.source.size + 3
  | sending _ (some r) => 2 * r.source.size + 4
  | sending _ none => 1
  | gone => 0

/-- How many steps are left to a consumer that finds no more feeds. -/
def Taker.load : Taker → Nat
  | working _ _ => 3
  | waiting _ => 2
  | done _ _ => 1
  | gone _ _ => 0

/-- A round uses up bytes of the source, or is the last one. -/
theorem Feeder.load_round (c : Cutting) (r : Reader) :
    load (sending (r.round c).feeds (r.round c).next) < load (reading r) := by
  cases hnext : (r.round c).next with
  | none =>
    simp only [load]
    omega
  | some next =>
    have hsize := Reader.size_lt_of_next hnext
    simp only [load]
    omega

theorem Feeder.load_pos {feeder : Feeder} (h : feeder ≠ gone) : 0 < feeder.load := by
  match feeder with
  | reading _ | sending _ (some _) => exact Nat.succ_pos _
  | sending _ none => exact Nat.one_pos
  | gone => exact absurd rfl h

namespace Relay

variable {s s' : Relay}

/-! ### What a step leaves as it is -/

/-- What the consumer makes of all feeds that are still to come to it. -/
def outlook (c : Cutting) (s : Relay) : Except Failure Unit × Consumer :=
  match s.taker with
  | .waiting k => k.drain c.unitSize (s.queue ++ s.feeder.pending c)
  | .working k feed => k.drain c.unitSize (feed :: (s.queue ++ s.feeder.pending c))
  | .done result k | .gone result k => (result, k)

/-- **No step changes the outlook.** -/
theorem Step.outlook_eq (h : Step c depth s s') : s'.outlook c = s.outlook c := by
  cases h with
  | round hfeeder => simp only [outlook, hfeeder, Feeder.pending_round]
  | push hfeeder hopen hroom =>
    simp only [outlook, hfeeder, Feeder.pending_cons, List.append_assoc, List.singleton_append]
  | refuse hfeeder hclosed =>
    cases htaker : s.taker with
    | gone result k => simp only [outlook, htaker]
    | waiting _ | working _ _ | done _ _ =>
      rw [htaker] at hclosed
      cases hclosed
  | goOn hfeeder => simp only [outlook, hfeeder, Feeder.pending_nil_some]
  | leave hfeeder => simp only [outlook, hfeeder, Feeder.pending_nil_none, Feeder.pending_gone]
  | take htaker hqueue => simp only [outlook, htaker, hqueue, List.cons_append]
  | work htaker haccept => simp only [outlook, htaker, Consumer.drain, haccept]
  | fail htaker haccept => simp only [outlook, htaker, Consumer.drain, haccept]
  | flush htaker hqueue hfeeder hflush =>
    simp only [outlook, htaker, hqueue, hfeeder, Feeder.pending_gone, List.append_nil,
      Consumer.drain, hflush]
  | close htaker => simp only [outlook, htaker]

/-- A relay **accounts** for feeds and notices: none of them has been lost, doubled or moved. Once
the consumer has turned away, feeds may be left behind, but only if it has failed. -/
structure Accounts (c : Cutting) (depth : Nat) (feeds : List Feed) (notices : List Notice)
    (s : Relay) : Prop where
  room : s.queue.length ≤ depth
  begun : s.taken <+: feeds
  whole : s.taker.isOpen = true → s.taken ++ s.queue ++ s.feeder.pending c = feeds
  told : s.taker.isOpen = true → s.notices ++ s.feeder.untold c = notices
  complete : ∀ k, s.taker = .done (.ok ()) k ∨ s.taker = .gone (.ok ()) k →
    s.feeder = .gone ∧ s.taken = feeds ∧ s.notices = notices

variable {feeds : List Feed} {notices : List Notice}

/-- A step of the reader keeps the accounts if it keeps what is in the queue and with the reader,
put together, and what has been told and not told. -/
theorem Accounts.of_reader (h : Accounts c depth feeds notices s) (hbusy : s.feeder ≠ .gone)
    {feeder : Feeder} {queue : List Feed} {told : List Notice} (hroom : queue.length ≤ depth)
    (hfeeds : s.taker.isOpen = true →
      queue ++ feeder.pending c = s.queue ++ s.feeder.pending c)
    (htold : s.taker.isOpen = true → told ++ feeder.untold c = s.notices ++ s.feeder.untold c) :
    Accounts c depth feeds notices { s with feeder, queue, notices := told } where
  room := hroom
  begun := h.begun
  whole hopen := by
    rw [List.append_assoc, hfeeds hopen, ← List.append_assoc]
    exact h.whole hopen
  told hopen := (htold hopen).trans (h.told hopen)
  complete k hended := absurd (h.complete k hended).1 hbusy

/-- A step of the consumer keeps the accounts if it keeps what has been taken and what is in the
queue, put together. -/
theorem Accounts.of_consumer (h : Accounts c depth feeds notices s)
    (hopen : s.taker.isOpen = true) {taker : Taker} {queue taken : List Feed}
    (hroom : queue.length ≤ depth) (hfeeds : taken ++ queue = s.taken ++ s.queue)
    (hgoes : ∀ k, taker ≠ .done (.ok ()) k ∧ taker ≠ .gone (.ok ()) k) :
    Accounts c depth feeds notices { s with taker, queue, taken } where
  room := hroom
  begun := by
    refine ⟨queue ++ s.feeder.pending c, ?_⟩
    rw [← List.append_assoc, hfeeds]
    exact h.whole hopen
  whole _ := by
    rw [hfeeds]
    exact h.whole hopen
  told _ := h.told hopen
  complete k hended := by
    rcases hended with hdone | hgone
    · exact absurd hdone (hgoes k).1
    · exact absurd hgone (hgoes k).2

/-- **A step keeps the accounts.** -/
theorem Accounts.step (h : Accounts c depth feeds notices s) (hstep : Step c depth s s') :
    Accounts c depth feeds notices s' := by
  cases hstep with
  | round hfeeder =>
    refine h.of_reader (by simp [hfeeder]) h.room (fun _ => ?_) (fun _ => ?_)
    · rw [hfeeder, Feeder.pending_round]
    · rw [hfeeder, List.append_assoc, Feeder.untold_round]
  | push hfeeder hopen hroom =>
    refine h.of_reader (by simp [hfeeder]) ?_ (fun _ => ?_) (fun _ => ?_)
    · rw [List.length_append, List.length_singleton]
      exact hroom
    · rw [hfeeder, Feeder.pending_cons, List.append_assoc, List.singleton_append]
    · rw [hfeeder]
      rfl
  | refuse hfeeder hclosed =>
    refine h.of_reader (by simp [hfeeder]) h.room (fun hopen => ?_) (fun hopen => ?_)
    all_goals
      rw [hclosed] at hopen
      cases hopen
  | goOn hfeeder =>
    refine h.of_reader (by simp [hfeeder]) h.room (fun _ => ?_) (fun _ => ?_)
    · rw [hfeeder, Feeder.pending_nil_some]
    · rw [hfeeder]
      rfl
  | leave hfeeder =>
    refine h.of_reader (by simp [hfeeder]) h.room (fun _ => ?_) (fun _ => ?_)
    · rw [hfeeder, Feeder.pending_nil_none, Feeder.pending_gone]
    · rw [hfeeder]
      rfl
  | take htaker hqueue =>
    have hopen : s.taker.isOpen = true := by rw [htaker]; rfl
    have hroom := h.room
    rw [hqueue, List.length_cons] at hroom
    refine h.of_consumer hopen (Nat.le_of_succ_le hroom) ?_ (by simp)
    rw [hqueue, List.append_assoc, List.singleton_append]
  | work htaker haccept =>
    have hopen : s.taker.isOpen = true := by rw [htaker]; rfl
    exact h.of_consumer hopen h.room rfl (by simp)
  | fail htaker haccept =>
    have hopen : s.taker.isOpen = true := by rw [htaker]; rfl
    exact h.of_consumer hopen h.room rfl (by simp)
  | flush htaker hqueue hfeeder hflush =>
    have hopen : s.taker.isOpen = true := by rw [htaker]; rfl
    have hwhole := h.whole hopen
    have htold := h.told hopen
    rw [hqueue, hfeeder, Feeder.pending_gone, List.append_nil, List.append_nil] at hwhole
    rw [hfeeder, Feeder.untold, List.append_nil] at htold
    exact ⟨h.room, h.begun, fun _ => h.whole hopen, fun _ => h.told hopen,
      fun _ _ => ⟨hfeeder, hwhole, htold⟩⟩
  | close htaker =>
    rename_i k result
    refine ⟨Nat.zero_le _, h.begun, fun hopen => ?_, fun hopen => ?_, fun k' hended => ?_⟩
    · cases hopen
    · cases hopen
    · rcases hended with hdone | hgone
      · cases hdone
      · obtain ⟨rfl, rfl⟩ := Taker.gone.inj hgone
        exact h.complete k (.inl htaker)

/-! ### What a step gets done -/

/-- The **load**, the work that is left: a feed that is still with the reader has to be handed on,
taken and got done, and one in the queue has to be taken and got done. -/
def load (c : Cutting) (s : Relay) : Nat :=
  3 * (s.feeder.pending c).length + 2 * s.queue.length + s.feeder.load + s.taker.load

/-- **Every step makes the load smaller**, so that no row of steps is longer than the load was at
its beginning. -/
theorem Step.load_lt (h : Step c depth s s') : s'.load c < s.load c := by
  cases h with
  | round hfeeder =>
    rename_i r
    have hround := Feeder.load_round c r
    simp only [load, hfeeder, Feeder.pending_round]
    omega
  | push hfeeder hopen hroom =>
    rename_i feed feeds next
    have hsame : (Feeder.sending feeds next).load = (Feeder.sending (feed :: feeds) next).load := by
      cases next <;> rfl
    simp only [load, hfeeder, Feeder.pending_cons, List.length_cons, List.length_append,
      List.length_nil, hsame]
    omega
  | refuse hfeeder hclosed =>
    rename_i feed feeds next
    have hpos : 0 < (Feeder.sending (feed :: feeds) next).load :=
      Feeder.load_pos Feeder.noConfusion
    have hgone : Feeder.gone.load = 0 := rfl
    simp only [load, hfeeder, Feeder.pending_gone, List.length_nil, hgone]
    omega
  | goOn hfeeder =>
    simp only [load, hfeeder, Feeder.pending_nil_some, Feeder.load]
    omega
  | leave hfeeder =>
    simp only [load, hfeeder, Feeder.pending_nil_none, Feeder.pending_gone, Feeder.load]
    omega
  | take htaker hqueue =>
    simp only [load, htaker, hqueue, List.length_cons, Taker.load]
    omega
  | work htaker haccept =>
    simp only [load, htaker, Taker.load]
    omega
  | fail htaker haccept =>
    simp only [load, htaker, Taker.load]
    omega
  | flush htaker hqueue hfeeder hflush =>
    simp only [load, htaker, Taker.load]
    omega
  | close htaker =>
    simp only [load, htaker, Taker.load, List.length_nil]
    omega

/-! ### Neither waits for the other for good -/

/-- A reader that is not gone can make a step, unless the queue is full and the consumer has not
turned away from it. -/
theorem exists_step_of_feeder (hfeeder : s.feeder ≠ .gone)
    (hroom : s.taker.isOpen = true → s.queue.length < depth) : ∃ s', Step c depth s s' := by
  cases hf : s.feeder with
  | gone => exact absurd hf hfeeder
  | reading r => exact ⟨_, .round hf⟩
  | sending feeds next =>
    cases feeds with
    | cons feed feeds =>
      cases hopen : s.taker.isOpen with
      | true => exact ⟨_, .push hf hopen (hroom hopen)⟩
      | false => exact ⟨_, .refuse hf hopen⟩
    | nil =>
      cases next with
      | none => exact ⟨_, .leave hf⟩
      | some r => exact ⟨_, .goOn hf⟩

/-- A consumer that is not gone can make a step, unless the queue is empty and the reader has not
left. -/
theorem exists_step_of_taker (htaker : s.taker.isOpen = true)
    (hqueue : s.queue = [] → s.feeder = .gone) : ∃ s', Step c depth s s' := by
  cases ht : s.taker with
  | gone result k =>
    rw [ht] at htaker
    cases htaker
  | done result k => exact ⟨_, .close ht⟩
  | working k feed =>
    cases haccept : k.accept c.unitSize feed with
    | mk result after =>
      cases result with
      | error failure => exact ⟨_, .fail ht haccept⟩
      | ok _ => exact ⟨_, .work ht haccept⟩
  | waiting k =>
    cases hq : s.queue with
    | nil => exact ⟨_, .flush ht hq (hqueue hq) (Prod.mk.eta (p := k.flush)).symm⟩
    | cons feed rest => exact ⟨_, .take ht hq⟩

/-- **The two never wait for each other**: as long as there is no outcome, one of them can make a
step, and there is no other reason for a step than that. -/
theorem outcome?_eq_none_iff (hdepth : 0 < depth) :
    s.outcome? = none ↔ ∃ s', Step c depth s s' := by
  constructor
  · intro hnone
    by_cases hopen : s.taker.isOpen = true
    · by_cases hqueue : s.queue = [] → s.feeder = .gone
      · exact exists_step_of_taker hopen hqueue
      · -- The queue is empty and the reader is not gone, so there is room for its next feed.
        obtain ⟨hempty, hfeeder⟩ := Classical.not_imp.mp hqueue
        refine exists_step_of_feeder hfeeder fun _ => ?_
        rw [hempty]
        exact hdepth
    · refine exists_step_of_feeder (fun hgone => ?_) fun h => absurd h hopen
      cases ht : s.taker with
      | gone result k => cases result <;> simp [outcome?, hgone, ht] at hnone
      | waiting _ | working _ _ | done _ _ =>
        rw [ht] at hopen
        exact hopen rfl
  · rintro ⟨s', hstep⟩
    cases hstep with
    | round hfeeder | push hfeeder | refuse hfeeder | goOn hfeeder | leave hfeeder =>
      rw [outcome?, hfeeder]
    | take htaker | work htaker | fail htaker | flush htaker | close htaker =>
      rw [outcome?, htaker]
      split <;> simp_all

/-! ### Rows of steps -/

/-- A relay **reaches** another one by some steps, whichever of the parties makes each of them. -/
def Reaches (c : Cutting) (depth : Nat) : Relay → Relay → Prop :=
  Relation.ReflTransGen (Step c depth)

theorem Reaches.outlook_eq (h : Reaches c depth s s') : s'.outlook c = s.outlook c := by
  induction h with
  | refl => rfl
  | tail _ hstep ih => exact hstep.outlook_eq.trans ih

theorem Reaches.accounts (h : Reaches c depth s s') (hs : Accounts c depth feeds notices s) :
    Accounts c depth feeds notices s' := by
  induction h with
  | refl => exact hs
  | tail _ hstep ih => exact ih.step hstep

/-- **Every run comes to an end**, by way of any relay that it may have come to. -/
theorem exists_outcome (hdepth : 0 < depth) (s : Relay) :
    ∃ last r, Reaches c depth s last ∧ last.outcome? = some r := by
  induction hload : s.load c using Nat.strongRecOn generalizing s with
  | ind load ih =>
    cases houtcome : s.outcome? with
    | some r => exact ⟨s, r, .refl, houtcome⟩
    | none =>
      obtain ⟨next, hstep⟩ := (outcome?_eq_none_iff (c := c) hdepth).mp houtcome
      obtain ⟨last, r, hreaches, hlast⟩ := ih _ (hload ▸ hstep.load_lt) next rfl
      exact ⟨last, r, .head hstep hreaches, hlast⟩

/-- There is an outcome only if both parties are gone, and it is made of what the consumer has come
to. -/
theorem outcome?_eq_some {r : Run} (h : s.outcome? = some r) :
    s.feeder = .gone ∧
      ((∃ k, s.taker = .gone (.ok ()) k ∧ r = {
          result := .ok k.stats
          notices := s.notices ++ [.encoded k.stats]
          sink := k.sink }) ∨
        ∃ failure k, s.taker = .gone (.error failure) k ∧ r = {
          result := .error failure
          notices := s.notices
          sink := k.sink }) := by
  rw [outcome?] at h
  split at h
  · rename_i k hfeeder htaker
    exact ⟨hfeeder, .inl ⟨k, htaker, (Option.some.inj h).symm⟩⟩
  · rename_i failure k hfeeder htaker
    exact ⟨hfeeder, .inr ⟨failure, k, htaker, (Option.some.inj h).symm⟩⟩
  · cases h

end Relay

/-! ### Runs -/

variable {settings : Settings} {device : Device} {p : Plan}

/-- At the beginning all feeds are with the reader. -/
theorem Plan.accounts_relay (p : Plan) (depth : Nat) (trigger : Option Nat) (source : Source)
    (sink : Sink) :
    (p.relay trigger source sink).Accounts p.cutting depth
      (Reader.run p.cutting { source, trigger }).1
      (Reader.run p.cutting { source, trigger }).2 where
  room := Nat.zero_le depth
  begun := List.nil_prefix
  whole _ := rfl
  told _ := rfl
  complete _ hended := by rcases hended with hdone | hgone <;> contradiction

/-- A sink that is full takes nothing of the first block, which brings out the header in any
case. -/
theorem Plan.accept_of_full (hplan : plan settings device = .ok p) {sink : Sink}
    (hsteady : sink.Steady) (hfull : sink.room = some 0) (data : List UInt8) :
    ∃ k, Consumer.accept p.cutting.unitSize { session := p.session, sink } (.block data)
      = (.error (.write (sink.full.getD Sink.stalled)), k) := by
  obtain ⟨e, hencoder, hfollows⟩ := encoder_of_plan hplan
  have hunit : p.cutting.unitSize ≠ 0 := Nat.ne_of_gt p.cutting.unitSize_pos
  have hopen : ∀ packet ∈ [Packet.block ⟨p.cutting.unitSize, data⟩].dropLast,
      packet ≠ .finish := by
    intro packet hpacket
    cases hpacket
  have hheader : 0 < (Report.banner ++ "\n").utf8ByteSize := by decide
  have hpos : 0 < (e.report (packetsOf p.cutting.unitSize [.block data])).utf8ByteSize := by
    have hpackets : packetsOf p.cutting.unitSize [.block data]
        = [.block ⟨p.cutting.unitSize, data⟩] := rfl
    rw [hpackets, hfollows.report_eq hopen, Report.Recording.ofPackets, List.foldl_cons,
      List.foldl_nil, Report.Recording.add, if_neg hunit, Report.layout, if_pos rfl, Report.header]
    simp only [String.utf8ByteSize_append] at hheader ⊢
    omega
  have hspec := Consumer.accept_spec (k := { session := p.session, sink }) hunit hencoder hsteady
    (fun _ => Feed.noConfusion : ∀ message, Feed.block data ≠ .failed message)
  generalize Consumer.accept _ _ _ = result at hspec
  cases hspec with
  | whole hfits =>
    have hle := hfits 0 hfull
    rw [Consumer.length_bytesOf] at hle
    omega
  | cut => exact ⟨_, rfl⟩

/-- **The pace of the two does not matter.** Whatever relay a run may have come to, no feed has been
lost, doubled or moved, one of the two can go on unless both are gone, and an end can be reached.
If it is the end, then the consumer has come to what it comes to if it is given all feeds of a
reader that has been let through first; so the result, with the totals or the failure, and the sink
are those of the run with one after the other, and a run that ends well has told the same too. -/
theorem run_relay (hplan : plan settings device = .ok p)
    (hroom : p.cutting.blockSize ≤ memoryLimit) (source : Source) (sink : Sink) :
    let depth := max settings.stream.queueDepth 1
    let trigger := settings.input.triggerAt
    let feeds := (Reader.run p.cutting { source, trigger }).1
    let notices := (Reader.run p.cutting { source, trigger }).2
    let alone := run settings device source sink
    ∀ s, Relay.Reaches p.cutting depth (p.relay trigger source sink) s →
      s.Accounts p.cutting depth feeds notices ∧
      (s.outcome? = none ↔ ∃ s', Relay.Step p.cutting depth s s') ∧
      (∃ last r, Relay.Reaches p.cutting depth s last ∧ last.outcome? = some r) ∧
      ∀ r, s.outcome? = some r →
        (∃ result k, s.taker = .gone result k ∧ (result, k)
          = Consumer.drain p.cutting.unitSize feeds { session := p.session, sink }) ∧
        r.result = alone.result ∧ r.sink = alone.sink ∧
        ∀ stats, r.result = .ok stats → s.taken = feeds ∧ r = alone := by
  intro depth trigger feeds notices alone s hreaches
  have hdepth : 0 < depth := Nat.lt_of_lt_of_le Nat.one_pos (Nat.le_max_right _ _)
  have haccounts := hreaches.accounts (p.accounts_relay depth trigger source sink)
  refine ⟨haccounts, Relay.outcome?_eq_none_iff hdepth, Relay.exists_outcome hdepth s, ?_⟩
  intro r houtcome
  have halone : alone = p.run trigger source sink := by
    show run settings device source sink = _
    rw [run, hplan]
  have houtlook : s.outlook p.cutting
      = Consumer.drain p.cutting.unitSize feeds { session := p.session, sink } :=
    hreaches.outlook_eq
  obtain ⟨-, ⟨k, htaker, rfl⟩ | ⟨failure, k, htaker, rfl⟩⟩ := Relay.outcome?_eq_some houtcome
  · simp only [Relay.outlook, htaker] at houtlook
    obtain ⟨-, htaken, htold⟩ := haccounts.complete k (.inr htaker)
    have hrun : p.run trigger source sink = _ := Plan.run_of_drain_ok hroom rfl houtlook.symm
    rw [halone, hrun, htold]
    exact ⟨⟨_, k, htaker, houtlook⟩, rfl, rfl, fun _ _ => ⟨htaken, rfl⟩⟩
  · simp only [Relay.outlook, htaker] at houtlook
    obtain ⟨hsink, hresult⟩ := Plan.run_drain hroom trigger source sink rfl houtlook.symm
    rw [halone]
    exact ⟨⟨_, k, htaker, houtlook⟩, hresult.symm, hsink.symm, by simp⟩

/-- A consumer that has failed at its first feed, with the second one in a queue that is full and
the reader waiting with the third. -/
theorem run_relay_full_queue :
    let device : Device := { channels := [{ index := 0, name := "D0" }] }
    let settings : Settings :=
      { input := { unitSize := some 1, triggerAt := some 1 }
        stream := { chunkSamples := 2, queueDepth := 0 } }
    let source : Source := .ofBytes [1, 0]
    let sink : Sink := { limit := some 0, full := some "disk full" }
    ∃ p, plan settings device = .ok p ∧ p.cutting.blockSize ≤ memoryLimit ∧
      ∃ s last r, Relay.Reaches p.cutting 1 (p.relay (some 1) source sink) s ∧
        (∃ next, s.feeder = .sending [.block [0]] next) ∧ s.queue = [.trigger] ∧
        (∃ k, s.taker = .done (.error (.write "disk full")) k) ∧
        (∃ s', Relay.Step p.cutting 1 s s') ∧
        Relay.Reaches p.cutting 1 s last ∧ last.outcome? = some r ∧
        r.result = (run settings device source sink).result ∧
        r.sink = (run settings device source sink).sink := by
  intro device settings source sink
  obtain ⟨p, hplan⟩ : ∃ p, plan settings device = .ok p := exists_plan (by decide)
  have hroom : p.cutting.blockSize ≤ memoryLimit := by
    rw [blockSize_of_plan hplan]
    decide
  have hunit : p.cutting.unitSize = 1 := unitSize_of_plan hplan
  have hblock : p.cutting.blockSize = 2 := blockSize_of_plan hplan
  -- The first round brings out three feeds.
  obtain ⟨next, notices, hround⟩ : ∃ next notices,
      Reader.round p.cutting { source, trigger := some 1 }
        = { feeds := [.block [1], .trigger, .block [0]], notices, next } := by
    rcases Reader.round_cases p.cutting { source, trigger := some 1 } with ⟨_, hshort, -⟩ |
      ⟨_, hnil, -⟩ | ⟨_, -, hshort, -⟩ | ⟨_, -, -, -, hround⟩
    · rw [hblock] at hshort
      exact absurd hshort (by decide)
    · exact absurd hnil (by decide)
    · rw [hblock] at hshort
      exact absurd hshort (by decide)
    · have hfeeds : ((Reader.mk source 0 (some 1)).cut p.cutting [1, 0]).1
          = [.block [1], .trigger, .block [0]] := by
        rw [Reader.cut, hunit]
        decide
      rw [hround, hblock]
      exact ⟨_, _, congrArg (Round.mk · _ _) hfeeds⟩
  have hsteady : sink.Steady := by
    rw [Sink.Steady]
    decide
  have hfull : sink.room = some 0 := rfl
  obtain ⟨k, haccept⟩ := Plan.accept_of_full hplan hsteady hfull [1]
  let begun : Relay :=
    { p.relay (some 1) source sink with
      feeder := .sending [.block [1], .trigger, .block [0]] next
      notices := [] ++ notices }
  have hbegun : Relay.Step p.cutting 1 (p.relay (some 1) source sink) begun := by
    have hstep : Relay.Step p.cutting 1 (p.relay (some 1) source sink) _ := .round rfl
    rw [hround] at hstep
    exact hstep
  obtain ⟨s, hreaches, hfeeder, hqueue, htaker⟩ : ∃ s,
      Relay.Reaches p.cutting 1 (p.relay (some 1) source sink) s ∧
        s.feeder = .sending [.block [0]] next ∧ s.queue = [.trigger] ∧
        s.taker = .done (.error (.write "disk full")) k :=
    ⟨_, .head hbegun <| .head (.push rfl rfl Nat.one_pos) <| .head (.take rfl rfl) <|
      .head (.push rfl rfl Nat.one_pos) <| .single (.fail rfl haccept), rfl, rfl, rfl⟩
  obtain ⟨-, hstuck, ⟨last, r, hlast, houtcome⟩, -⟩ := run_relay hplan hroom source sink s hreaches
  obtain ⟨-, -, -, hend⟩ := run_relay hplan hroom source sink last (hreaches.trans hlast)
  obtain ⟨-, hresult, hsink, -⟩ := hend r houtcome
  have hnone : s.outcome? = none := by rw [Relay.outcome?, hfeeder]
  exact ⟨p, hplan, hroom, s, last, r, hreaches, ⟨_, hfeeder⟩, hqueue, ⟨_, htaker⟩,
    hstuck.mp hnone, hlast, houtcome, hresult, hsink⟩

end CaptureReport.Stream
