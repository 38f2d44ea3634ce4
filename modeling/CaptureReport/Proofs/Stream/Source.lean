import CaptureReport.Stream.Source
import Mathlib.Data.List.Basic

/-!
# What a source has to give

The bytes of a source are those that its reads bring before the first **stop**: a read that comes
back empty, or a failure. Bursts and interruptions are how they come, not what they are. A fill
brings out the first of these bytes whatever the bursts, and leaves the others.

## Main results

* `Source.read_spec`: what one read tells about the bytes and the stop.
* `Source.fill_spec`: a fill brings out the first bytes, as many as it wants or as there are, and
  fails exactly if it wants more than there are and the stop is a failure.
-/

namespace CaptureReport.Stream

/-- The bytes that deliveries bring before they stop. -/
def Delivery.bytes : List Delivery → List UInt8
  | .burst (byte :: data) :: rest => (byte :: data) ++ bytes rest
  | .interrupted :: rest => bytes rest
  | [] | .burst [] :: _ | .failed _ :: _ => []

/-- The failure that deliveries stop with, if it is one. -/
def Delivery.fault : List Delivery → Option String
  | .burst (_ :: _) :: rest | .interrupted :: rest => fault rest
  | .failed message :: _ => some message
  | [] | .burst [] :: _ => none

namespace Source

/-- The bytes that a source has to give before it stops. -/
def bytes (s : Source) : List UInt8 :=
  s.current ++ Delivery.bytes s.later

/-- The failure that a source stops with, if it is one. -/
def fault (s : Source) : Option String :=
  Delivery.fault s.later

variable {s s' : Source} {n : Nat}

/-- What is taken from the front of a burst and what is left of it are all there is. -/
theorem append_bytes_eq (burst : List UInt8) (n : Nat) (later : List Delivery) :
    burst ++ Delivery.bytes later = burst.take n ++ bytes { current := burst.drop n, later } := by
  rw [bytes, ← List.append_assoc, List.take_append_drop]

/-- **What one read tells about a source.** Bytes come from the front of what there is to give, no
more than were asked for; an interruption changes nothing; an empty read and a failure are the
stop. -/
theorem read_spec {delivery : Delivery} (hn : n ≠ 0) (h : s.read n = (delivery, s')) :
    match delivery with
    | .burst [] => s.bytes = [] ∧ s.fault = none
    | .burst (byte :: data) =>
      s.bytes = (byte :: data) ++ s'.bytes ∧ s'.fault = s.fault ∧ (byte :: data).length ≤ n
    | .interrupted => s'.bytes = s.bytes ∧ s'.fault = s.fault
    | .failed message => s.bytes = [] ∧ s.fault = some message := by
  obtain ⟨current, later⟩ := s
  obtain ⟨m, rfl⟩ := Nat.exists_eq_succ_of_ne_zero hn
  cases current with
  | cons byte rest =>
    obtain ⟨rfl, rfl⟩ := Prod.mk.inj h
    exact ⟨append_bytes_eq (byte :: rest) (m + 1) later, rfl,
      List.length_take_le (m + 1) (byte :: rest)⟩
  | nil =>
    cases later with
    | nil =>
      obtain ⟨rfl, rfl⟩ := Prod.mk.inj h
      exact ⟨rfl, rfl⟩
    | cons first later =>
      cases first with
      | burst data =>
        obtain ⟨rfl, rfl⟩ := Prod.mk.inj h
        cases data with
        | nil => exact ⟨rfl, rfl⟩
        | cons byte rest =>
          exact ⟨append_bytes_eq (byte :: rest) (m + 1) later, rfl,
            List.length_take_le (m + 1) (byte :: rest)⟩
      | interrupted =>
        obtain ⟨rfl, rfl⟩ := Prod.mk.inj h
        exact ⟨rfl, rfl⟩
      | failed message =>
        obtain ⟨rfl, rfl⟩ := Prod.mk.inj h
        exact ⟨rfl, rfl⟩

/-! ### Filling -/

/-- **What a fill tells about a source.** It brings out the first `n` bytes there are to give and
leaves the others; if there are fewer, the stop comes first, and the fill fails exactly if the stop
is a failure. -/
theorem fill_spec (s : Source) (n : Nat) :
    match s.fill n with
    | (.ok data, s') =>
      data = s.bytes.take n ∧
        (n ≤ s.bytes.length → s'.bytes = s.bytes.drop n ∧ s'.fault = s.fault) ∧
        (s.bytes.length < n → s.fault = none)
    | (.error message, _) => s.bytes.length < n ∧ s.fault = some message := by
  fun_induction fill s n with
  | case1 s => exact ⟨rfl, fun _ => ⟨rfl, rfl⟩, fun hlt => absurd hlt (Nat.not_lt_zero _)⟩
  | case2 s n hn t hread =>
    obtain ⟨hbytes, hfault⟩ := read_spec hn hread
    rw [hbytes, List.take_nil]
    exact ⟨rfl, fun hle => absurd (Nat.le_zero.mp hle) hn, fun _ => hfault⟩
  | case3 s n hn byte data t hread more u hfill ih =>
    obtain ⟨hbytes, hfault, hlen⟩ := read_spec hn hread
    rw [hfill] at ih
    obtain ⟨hmore, hrest, hstop⟩ := ih
    rw [hbytes, List.take_append, List.drop_append, List.take_of_length_le hlen,
      List.drop_of_length_le hlen, List.nil_append, List.length_append, ← hfault, hmore]
    exact ⟨rfl, fun hle => hrest (by omega), fun hlt => hstop (by omega)⟩
  | case4 s n hn byte data t hread message u hfill ih =>
    obtain ⟨hbytes, hfault, hlen⟩ := read_spec hn hread
    rw [hfill] at ih
    rw [hbytes, List.length_append, ← hfault]
    exact ⟨by omega, ih.2⟩
  | case5 s n hn t hread ih =>
    obtain ⟨hbytes, hfault⟩ := read_spec hn hread
    rw [← hbytes, ← hfault]
    exact ih
  | case6 s n hn message t hread =>
    obtain ⟨hbytes, hfault⟩ := read_spec hn hread
    rw [hbytes, List.length_nil]
    exact ⟨Nat.pos_of_ne_zero hn, hfault⟩

end Source

end CaptureReport.Stream
