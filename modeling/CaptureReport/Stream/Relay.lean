import CaptureReport.Stream.Run

/-!
# Reader and consumer at the same time

Two **parties** carry out a run. The reader works ahead and hands its feeds on, the consumer takes
them one at a time, and between the two is a **queue** that holds so many feeds and no more, its
depth. A `Relay` is the state of both and of the queue between them.

What a party does by itself, a round of the reader or a feed of the consumer, the other one cannot
see, and it is a single step. The moments at which they meet are steps of their own: a feed goes
into the queue or comes out of it, and one of the two turns away from it. `Relay.Step` says which
steps there are. It leaves open who makes the next one, so that its rows of steps are all the ways
in which the two can go along beside each other.

Of the queue it is taken for granted that feeds come out in the order in which they went in, that a
feed is refused exactly if the consumer has turned away, that the reader otherwise waits as long as
the queue is full, and that the consumer finds no more feeds exactly if the queue is empty and the
reader has left.
-/

namespace CaptureReport.Stream

/-- Where the reader is. -/
inductive Feeder
  /-- About to begin a round. -/
  | reading (r : Reader)
  /-- Behind a round, some of whose feeds are still to be handed on, and before the next one if
  there is one. -/
  | sending (feeds : List Feed) (next : Option Reader)
  /-- It has left. -/
  | gone

/-- Where the consumer is. -/
inductive Taker
  /-- About to take a feed. -/
  | waiting (k : Consumer)
  /-- A feed has been taken and is yet to be encoded and written. -/
  | working (k : Consumer) (feed : Feed)
  /-- It takes no more feeds, but the queue does not know yet. -/
  | done (result : Except Failure Unit) (k : Consumer)
  /-- It has turned away from the queue. -/
  | gone (result : Except Failure Unit) (k : Consumer)

/-- Whether feeds may still go into the queue. -/
def Taker.isOpen : Taker → Bool
  | waiting _ | working _ _ | done _ _ => true
  | gone _ _ => false

/-- The two parties and the queue between them. -/
structure Relay where
  feeder : Feeder
  /-- The feeds that wait in the queue, the first one in front. -/
  queue : List Feed := []
  taker : Taker
  /-- What the reader has told so far; a round tells all it has to tell at once. -/
  notices : List Notice := []
  /-- The feeds that the consumer has taken so far. -/
  taken : List Feed := []

/-- The beginning of a run that carries out a plan. -/
def Plan.relay (p : Plan) (trigger : Option Nat) (source : Source) (sink : Sink) : Relay where
  feeder := .reading { source, trigger }
  taker := .waiting { session := p.session, sink }

namespace Relay

/-- The steps of the two parties, for a cutting of the capture and a depth of the queue. -/
inductive Step (c : Cutting) (depth : Nat) (s : Relay) : Relay → Prop
  /-- The reader makes a round. -/
  | round {r : Reader} (hfeeder : s.feeder = .reading r) :
      Step c depth s { s with
        feeder := .sending (r.round c).feeds (r.round c).next
        notices := s.notices ++ (r.round c).notices }
  /-- The reader hands on a feed; the queue has room for it. -/
  | push {feed : Feed} {feeds : List Feed} {next : Option Reader}
      (hfeeder : s.feeder = .sending (feed :: feeds) next) (hopen : s.taker.isOpen = true)
      (hroom : s.queue.length < depth) :
      Step c depth s { s with feeder := .sending feeds next, queue := s.queue ++ [feed] }
  /-- A feed of the reader is refused, and the reader gives up. -/
  | refuse {feed : Feed} {feeds : List Feed} {next : Option Reader}
      (hfeeder : s.feeder = .sending (feed :: feeds) next) (hclosed : s.taker.isOpen = false) :
      Step c depth s { s with feeder := .gone }
  /-- The feeds of a round have been handed on, and there is another one. -/
  | goOn {r : Reader} (hfeeder : s.feeder = .sending [] (some r)) :
      Step c depth s { s with feeder := .reading r }
  /-- The feeds of the last round have been handed on. -/
  | leave (hfeeder : s.feeder = .sending [] none) : Step c depth s { s with feeder := .gone }
  /-- The consumer takes a feed out of the queue. -/
  | take {k : Consumer} {feed : Feed} {rest : List Feed} (htaker : s.taker = .waiting k)
      (hqueue : s.queue = feed :: rest) :
      Step c depth s { s with
        taker := .working k feed
        queue := rest
        taken := s.taken ++ [feed] }
  /-- The consumer gets a feed done. -/
  | work {k after : Consumer} {feed : Feed} (htaker : s.taker = .working k feed)
      (haccept : k.accept c.unitSize feed = (.ok (), after)) :
      Step c depth s { s with taker := .waiting after }
  /-- The consumer fails at a feed. -/
  | fail {k after : Consumer} {feed : Feed} {failure : Failure}
      (htaker : s.taker = .working k feed)
      (haccept : k.accept c.unitSize feed = (.error failure, after)) :
      Step c depth s { s with taker := .done (.error failure) after }
  /-- The consumer finds no more feeds, and flushes the sink. -/
  | flush {k after : Consumer} {result : Except Failure Unit} (htaker : s.taker = .waiting k)
      (hqueue : s.queue = []) (hfeeder : s.feeder = .gone) (hflush : k.flush = (result, after)) :
      Step c depth s { s with taker := .done result after }
  /-- The consumer turns away from the queue, and what is in there is lost. -/
  | close {k : Consumer} {result : Except Failure Unit} (htaker : s.taker = .done result k) :
      Step c depth s { s with taker := .gone result k, queue := [] }

/-- What becomes of the run, once both parties are gone. -/
def outcome? (s : Relay) : Option Run :=
  match s.feeder, s.taker with
  | .gone, .gone (.ok ()) k =>
    some { result := .ok k.stats, notices := s.notices ++ [.encoded k.stats], sink := k.sink }
  | .gone, .gone (.error failure) k =>
    some { result := .error failure, notices := s.notices, sink := k.sink }
  | _, _ => none

end Relay

end CaptureReport.Stream
