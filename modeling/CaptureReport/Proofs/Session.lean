import CaptureReport.Proofs.Report.Streaming
import CaptureReport.Session

/-!
# What a session brings out

As long as no packet is refused, a session answers with the texts of its encoder.

## Main results

* `Session.send_eq`: one packet.
* `Session.report_eq`: a stream of packets.
-/

namespace CaptureReport

/-- A packet whose samples, if it has any, are at least one byte wide is not refused. -/
theorem Report.Encoder.exists_receive (e : Report.Encoder) {packet : Packet}
    (htaken : ∀ b, packet = .block b → b.unitSize ≠ 0) :
    ∃ text next, e.receive packet = .ok (text, next) := by
  cases packet with
  | trigger => exact ⟨_, _, rfl⟩
  | finish => exact ⟨_, _, rfl⟩
  | block b =>
    rw [receive, Block.samples?, if_neg (htaken b rfl)]
    exact ⟨_, _, rfl⟩

namespace Session

/-- What a session brings out for the packets of a stream, put together; or the first refusal. -/
def report (s : Session) : List Packet → Except Refusal String
  | [] => .ok ""
  | packet :: rest =>
    match s.send packet with
    | .error refusal => .error refusal
    | .ok (text, s) => (s.report rest).map fun more => text.getD "" ++ more

variable {s : Session} {e : Report.Encoder}

/-- **A packet that is not refused is answered by the encoder.** -/
theorem send_eq (hencoder : s.encoder = some e) (packet : Packet)
    (htaken : ∀ b, packet = .block b → b.unitSize ≠ 0) :
    ∃ text, s.send packet = .ok (text, { s with encoder := some (e.step packet).2 }) ∧
      text.getD "" = Report.textOf (e.step packet).1 := by
  obtain ⟨text, next, hreceive⟩ := e.exists_receive htaken
  refine ⟨text, ?_, ?_⟩
  · simp only [send, hencoder, Report.Encoder.step, hreceive]
    rfl
  · rw [Report.Encoder.step, hreceive]
    cases text <;> rfl

/-- **A stream of packets that are not refused brings out the report of the encoder.** -/
theorem report_eq (hencoder : s.encoder = some e) {packets : List Packet}
    (htaken : ∀ b, .block b ∈ packets → b.unitSize ≠ 0) :
    s.report packets = .ok (e.report packets) := by
  induction packets generalizing s e with
  | nil => rfl
  | cons packet rest ih =>
    obtain ⟨text, hsend, htext⟩ := send_eq hencoder packet fun b hb =>
      htaken b (hb ▸ List.mem_cons_self)
    have hrest := ih (s := { s with encoder := some (e.step packet).2 }) rfl fun b hb =>
      htaken b (List.mem_cons_of_mem _ hb)
    rw [Report.Encoder.report_cons, ← htext]
    simp only [report, hsend, hrest]
    rfl

end Session

end CaptureReport
