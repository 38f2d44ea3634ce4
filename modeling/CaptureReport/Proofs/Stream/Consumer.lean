import CaptureReport.Proofs.Session
import CaptureReport.Proofs.Stream.Feeds
import CaptureReport.Proofs.Stream.Sink
import CaptureReport.Stream.Consumer

/-!
# What the consumer writes

The consumer sends the packets of its feeds to the encoder and writes what they bring out. To a
steady sink it comes to the same whether the texts are written one after the other or all at once:
either the sink has room for them, and the consumer gets to the end of the feeds with every text
counted, or the sink is full before that, and the consumer stops with the part that fits.

Behind the last feed the sink is flushed, once and only if it has taken all there was.

## Main results

* `Consumer.accept_spec`: one feed.
* `Consumer.acceptAll_spec`: several feeds.
* `Consumer.drain_append`: some feeds before others.
* `Consumer.drain_steady`: all feeds and the flush, to a steady sink.
* `Consumer.drain_spec`: all feeds and the flush, to a sink that never fails.
-/

namespace CaptureReport.Stream

/-! ### Packets of feeds -/

/-- The packet that a feed is sent as; a failure is not sent. -/
def packetOf (unitSize : Nat) : Feed → Option Packet
  | .block data => some (.block { unitSize, data })
  | .trigger => some .trigger
  | .finish => some .finish
  | .failed _ => none

/-- The packets of several feeds. -/
def packetsOf (unitSize : Nat) (feeds : List Feed) : List Packet :=
  feeds.filterMap (packetOf unitSize)

theorem packetsOf_append (unitSize : Nat) (feeds later : List Feed) :
    packetsOf unitSize (feeds ++ later) = packetsOf unitSize feeds ++ packetsOf unitSize later :=
  List.filterMap_append

theorem packetsOf_trigger (unitSize : Nat) (feeds : List Feed) :
    packetsOf unitSize (.trigger :: feeds) = .trigger :: packetsOf unitSize feeds :=
  rfl

theorem packetsOf_finish (unitSize : Nat) : packetsOf unitSize [.finish] = [.finish] :=
  rfl

/-- The totals with some more feeds, and the text they bring out. -/
def Stats.add (stats : Stats) (unitSize : Nat) (feeds : List Feed) (text : String) : Stats where
  packets := stats.packets + (blocksOf feeds).length
  samples := stats.samples + ((blocksOf feeds).map (·.length / unitSize)).sum
  triggers := stats.triggers + feeds.count .trigger
  bytesOut := stats.bytesOut + text.utf8ByteSize

theorem Stats.add_add (stats : Stats) (unitSize : Nat) (feeds later : List Feed)
    (text more : String) :
    (stats.add unitSize feeds text).add unitSize later more
      = stats.add unitSize (feeds ++ later) (text ++ more) := by
  simp [Stats.add, Nat.add_assoc, String.utf8ByteSize_append]

namespace Consumer

@[simp] theorem bytesOf_append (text more : String) :
    bytesOf (text ++ more) = bytesOf text ++ bytesOf more := by
  simp [bytesOf]

theorem length_bytesOf (text : String) : (bytesOf text).length = text.utf8ByteSize :=
  rfl

variable {k : Consumer} {e : Report.Encoder}

/-! ### Delivering texts -/

/-- What becomes of a text that is to be written: the sink has room for it, and the consumer goes on
with a session and totals; or the sink takes the part that fits, and the consumer fails. -/
inductive Delivered (s : Sink) (text : String) (session : Session) (stats : Stats) :
    Except Failure Unit × Consumer → Prop
  | whole {sink : Sink} (hfits : s.Fits (bytesOf text)) (htook : s.Took (bytesOf text) sink) :
      Delivered s text session stats (.ok (), { session, sink, stats })
  | cut {last : Consumer} (hfits : ¬ s.Fits (bytesOf text))
      (htook : s.Took (s.fitting (bytesOf text)) last.sink) :
      Delivered s text session stats (.error (.write (s.full.getD Sink.stalled)), last)

section Delivering

variable {s s' : Sink} {text more : String} {session : Session} {stats : Stats} {last : Consumer}
  {result : Except Failure Unit × Consumer}

/-- A text behind one that has been written in full. -/
theorem Delivered.append (hfits : s.Fits (bytesOf text)) (htook : s.Took (bytesOf text) s')
    (h : Delivered s' more session stats result) :
    Delivered s (text ++ more) session stats result := by
  cases h with
  | whole hmore hlast =>
    refine .whole ?_ ?_
    · rw [bytesOf_append]
      exact (htook.fits_append hfits).mpr hmore
    · rw [bytesOf_append]
      exact htook.trans hlast
  | cut hmore hlast =>
    rw [htook.full]
    refine .cut ?_ ?_
    · rw [bytesOf_append]
      exact fun hall => hmore ((htook.fits_append hfits).mp hall)
    · rw [bytesOf_append, htook.fitting_append hfits]
      exact htook.trans hlast

/-- Nothing is written behind a text that has been cut. -/
theorem Delivered.append_cut (hfits : ¬ s.Fits (bytesOf text))
    (htook : s.Took (s.fitting (bytesOf text)) last.sink) (more : String) (session : Session)
    (stats : Stats) :
    Delivered s (text ++ more) session stats
      (.error (.write (s.full.getD Sink.stalled)), last) := by
  refine .cut ?_ ?_
  · rw [bytesOf_append]
    exact Sink.not_fits_append hfits _
  · rw [bytesOf_append, Sink.fitting_append_of_not_fits hfits]
    exact htook

end Delivering

/-! ### Feeds -/

/-- What a packet brought out, if anything, is written and counted. -/
theorem write_spec (hsteady : k.sink.Steady) (text : Option String) :
    Delivered k.sink (text.getD "") k.session
      { k.stats with bytesOut := k.stats.bytesOut + (text.getD "").utf8ByteSize }
      (k.write text) := by
  cases text with
  | none => exact .whole (Sink.fits_nil _) (.refl _)
  | some text =>
    obtain ⟨sink, htook, hdone, hfailed⟩ := Sink.writeAll_spec hsteady (bytesOf text)
    rw [write]
    by_cases hfits : k.sink.Fits (bytesOf text)
    · rw [hdone hfits]
      rw [Sink.fitting_of_fits hfits] at htook
      exact .whole hfits htook
    · rw [hfailed hfits]
      exact .cut hfits htook

/-- What a packet brings out of the encoder is written and counted. -/
theorem send_spec (hencoder : k.session.encoder = some e) (hsteady : k.sink.Steady)
    (packet : Packet) (htaken : ∀ b, packet = .block b → b.unitSize ≠ 0) :
    Delivered k.sink (e.report [packet]) { k.session with encoder := some (e.after [packet]) }
      { k.stats with bytesOut := k.stats.bytesOut + (e.report [packet]).utf8ByteSize }
      (k.send packet) := by
  obtain ⟨text, hsend, htext⟩ := Session.send_eq hencoder packet htaken
  have hreport : e.report [packet] = text.getD "" := by
    rw [Report.Encoder.report_cons, Report.Encoder.report_nil, String.append_empty, htext]
  rw [send, hsend, hreport]
  exact write_spec
    (k := { k with session := { k.session with encoder := some (e.step packet).2 } }) hsteady text

/-- **One feed.** -/
theorem accept_spec {unitSize : Nat} (hunit : unitSize ≠ 0) (hencoder : k.session.encoder = some e)
    (hsteady : k.sink.Steady) {feed : Feed} (hfeed : ∀ message, feed ≠ .failed message) :
    Delivered k.sink (e.report (packetsOf unitSize [feed]))
      { k.session with encoder := some (e.after (packetsOf unitSize [feed])) }
      (k.stats.add unitSize [feed] (e.report (packetsOf unitSize [feed])))
      (k.accept unitSize feed) := by
  cases feed with
  | block data =>
    have htaken : ∀ b : Block, Packet.block ⟨unitSize, data⟩ = .block b → b.unitSize ≠ 0 := by
      rintro b ⟨⟩
      exact hunit
    exact send_spec (k := { k with
      stats := { k.stats with
        packets := k.stats.packets + 1
        samples := k.stats.samples + (Block.mk unitSize data).sampleCount } })
      hencoder hsteady _ htaken
  | trigger =>
    exact send_spec
      (k := { k with stats := { k.stats with triggers := k.stats.triggers + 1 } })
      hencoder hsteady _ fun b hb => nomatch hb
  | finish => exact send_spec hencoder hsteady _ fun b hb => nomatch hb
  | failed message => exact absurd rfl (hfeed message)

/-- Takes several feeds, with no flush behind them. -/
def acceptAll (unitSize : Nat) : List Feed → Consumer → Except Failure Unit × Consumer
  | [], k => (.ok (), k)
  | feed :: rest, k =>
    match k.accept unitSize feed with
    | (.error failure, k) => (.error failure, k)
    | (.ok (), k) => acceptAll unitSize rest k

/-- **Several feeds.** -/
theorem acceptAll_spec {unitSize : Nat} (hunit : unitSize ≠ 0)
    (hencoder : k.session.encoder = some e) (hsteady : k.sink.Steady) {feeds : List Feed}
    (hfeeds : ∀ message, .failed message ∉ feeds) :
    Delivered k.sink (e.report (packetsOf unitSize feeds))
      { k.session with encoder := some (e.after (packetsOf unitSize feeds)) }
      (k.stats.add unitSize feeds (e.report (packetsOf unitSize feeds)))
      (acceptAll unitSize feeds k) := by
  induction feeds generalizing k e with
  | nil =>
    obtain ⟨⟨format, encoder⟩, sink, stats⟩ := k
    obtain rfl : encoder = some e := hencoder
    exact .whole (Sink.fits_nil _) (.refl _)
  | cons feed rest ih =>
    have hfeed : ∀ message, feed ≠ .failed message := fun message heq =>
      hfeeds message (heq ▸ List.mem_cons_self)
    have hrest : ∀ message, .failed message ∉ rest := fun message hmem =>
      hfeeds message (List.mem_cons_of_mem _ hmem)
    have hfirst := accept_spec hunit hencoder hsteady hfeed
    have hpackets : packetsOf unitSize (feed :: rest)
        = packetsOf unitSize [feed] ++ packetsOf unitSize rest :=
      packetsOf_append unitSize [feed] rest
    have hstats (text more : String) : k.stats.add unitSize (feed :: rest) (text ++ more)
        = (k.stats.add unitSize [feed] text).add unitSize rest more :=
      (Stats.add_add k.stats unitSize [feed] rest text more).symm
    rw [acceptAll, hpackets, Report.Encoder.report_append, Report.Encoder.after_append, hstats]
    generalize k.accept unitSize feed = result at hfirst
    cases hfirst with
    | cut hfits htook => exact .append_cut hfits htook _ _ _
    | whole hfits htook =>
      rename_i sink
      exact .append hfits htook (ih (k := {
        session := { k.session with encoder := some (e.after (packetsOf unitSize [feed])) }
        sink
        stats := k.stats.add unitSize [feed] (e.report (packetsOf unitSize [feed])) })
        rfl (htook.steady hsteady) hrest)

/-- Some feeds before others. -/
theorem drain_append (unitSize : Nat) (front rest : List Feed) (k : Consumer) :
    k.drain unitSize (front ++ rest) =
      match acceptAll unitSize front k with
      | (.error failure, k) => (.error failure, k)
      | (.ok (), k) => k.drain unitSize rest := by
  induction front generalizing k with
  | nil => rfl
  | cons feed front ih =>
    rw [List.cons_append, drain, acceptAll]
    cases k.accept unitSize feed with
    | mk result k =>
      cases result with
      | error failure => rfl
      | ok _ => exact ih k

/-! ### All feeds -/

/-- What becomes of a report, written to a steady sink and flushed: the sink is full before its
end, and is not flushed; or the sink takes all of it, and is flushed once, behind its last byte. -/
inductive Flushed (s : Sink) (report : String) (stats : Stats) :
    Except Failure Unit × Consumer → Prop
  | full {last : Consumer} (hfits : ¬ s.Fits (bytesOf report))
      (hreceived : last.sink.received.toList = s.received.toList ++ s.fitting (bytesOf report))
      (hflushed : last.sink.flushedAt = s.flushedAt) :
      Flushed s report stats (.error (.write (s.full.getD Sink.stalled)), last)
  | failed {last : Consumer} {message : String} (hfits : s.Fits (bytesOf report))
      (hreceived : last.sink.received.toList = s.received.toList ++ bytesOf report)
      (hflushed : last.sink.flushedAt = s.flushedAt.push (s.received.size + report.utf8ByteSize))
      (hfault : s.flushFault = some message) :
      Flushed s report stats (.error (.flush message), last)
  | done {last : Consumer} (hfits : s.Fits (bytesOf report))
      (hreceived : last.sink.received.toList = s.received.toList ++ bytesOf report)
      (hflushed : last.sink.flushedAt = s.flushedAt.push (s.received.size + report.utf8ByteSize))
      (hfault : s.flushFault = none) (hstats : last.stats = stats) :
      Flushed s report stats (.ok (), last)

/-- **All feeds, and the flush behind them.** -/
theorem drain_steady {unitSize : Nat} (hunit : unitSize ≠ 0) (hencoder : k.session.encoder = some e)
    (hsteady : k.sink.Steady) {feeds : List Feed} (hfeeds : ∀ message, .failed message ∉ feeds) :
    Flushed k.sink (e.report (packetsOf unitSize feeds))
      (k.stats.add unitSize feeds (e.report (packetsOf unitSize feeds)))
      (k.drain unitSize feeds) := by
  have hall := acceptAll_spec hunit hencoder hsteady hfeeds
  have hdrain := drain_append unitSize feeds [] k
  rw [List.append_nil] at hdrain
  rw [hdrain]
  generalize acceptAll unitSize feeds k = result at hall
  cases hall with
  | cut hfits htook => exact .full hfits htook.received htook.flushedAt
  | whole hfits htook =>
    rename_i sink
    have hflushed : sink.flushedAt.push sink.received.size = k.sink.flushedAt.push
        (k.sink.received.size + (e.report (packetsOf unitSize feeds)).utf8ByteSize) := by
      rw [htook.flushedAt, htook.size_received, length_bytesOf]
    cases hfault : k.sink.flushFault with
    | some message =>
      have hsame : sink.flushFault = some message := htook.flushFault.trans hfault
      simp only [drain, flush, Sink.flush, hsame]
      exact .failed hfits htook.received hflushed hfault
    | none =>
      have hsame : sink.flushFault = none := htook.flushFault.trans hfault
      simp only [drain, flush, Sink.flush, hsame]
      exact .done hfits htook.received hflushed hfault rfl

/-- To a sink that never fails, all texts are written, and the flush succeeds. -/
theorem drain_spec {unitSize : Nat} (hunit : unitSize ≠ 0)
    (hencoder : k.session.encoder = some e) (hsink : k.sink.NeverFails) {feeds : List Feed}
    (hfeeds : ∀ message, .failed message ∉ feeds) :
    ∃ after, k.drain unitSize feeds = (.ok (), after) ∧
      after.stats = k.stats.add unitSize feeds (e.report (packetsOf unitSize feeds)) ∧
      after.sink.received.toList
        = k.sink.received.toList ++ bytesOf (e.report (packetsOf unitSize feeds)) := by
  have hall := drain_steady hunit hencoder hsink.perWrite hfeeds
  generalize k.drain unitSize feeds = result at hall
  cases hall with
  | full hfits => exact absurd (hsink.fits _) hfits
  | failed _ _ _ hfault =>
    rw [hsink.flushFault] at hfault
    cases hfault
  | done _ hreceived _ _ hstats => exact ⟨_, rfl, hstats, hreceived⟩

end Consumer

end CaptureReport.Stream
