/-!
# Sources

A **source** hands out the bytes of a capture in bursts, the way a pipe or a serial line does. A
read that finds bytes left of the current burst takes from it; otherwise it goes on to the next
delivery, which is a burst, an interruption that means nothing, or a failure. Where nothing is left,
or a burst is empty, a read comes back with no bytes, and that is what marks the end of the capture.

`Source.fill` reads until it has what it wants, so that only the bytes count and not the bursts they
came in.

## Main results

* `Source.size_read`: every read uses up a byte or a delivery.
* `Source.size_fill`: what a fill brings out is gone from the source.
-/

namespace CaptureReport.Stream

/-- What a single read brings. -/
inductive Delivery
  | burst (data : List UInt8)
  /-- The read was cut off before it began, and is to be made again. -/
  | interrupted
  | failed (message : String)
  deriving DecidableEq, Repr

/-- A source of bytes: the rest of the burst being read, and the deliveries after it. -/
structure Source where
  current : List UInt8 := []
  later : List Delivery := []
  deriving DecidableEq, Repr

/-- How much a delivery adds to the size of a source: itself and its bytes. -/
def Delivery.size : Delivery → Nat
  | .burst data => data.length + 1
  | .interrupted | .failed _ => 1

/-- How much several deliveries add together. -/
def Delivery.sizes : List Delivery → Nat
  | [] => 0
  | delivery :: rest => delivery.size + sizes rest

namespace Source

/-- The source that delivers some bytes at once. -/
def ofBytes (data : List UInt8) : Source where
  current := data

/-- The source that fails at the first read. -/
def failing (message : String) : Source where
  later := [.failed message]

/-- The bytes and deliveries that are left. -/
def size (s : Source) : Nat :=
  s.current.length + Delivery.sizes s.later

/-- One read of at most `n` bytes. -/
def read (s : Source) (n : Nat) : Delivery × Source :=
  match s.current with
  | byte :: rest => (.burst ((byte :: rest).take n), { s with current := (byte :: rest).drop n })
  | [] =>
    match s.later with
    | [] => (.burst [], s)
    | .burst data :: later => (.burst (data.take n), { current := data.drop n, later })
    | .interrupted :: later => (.interrupted, { later })
    | .failed message :: later => (.failed message, { later })

/-! ### Reading makes progress -/

/-- The bytes that a read brings are gone from the source. -/
theorem size_read_burst {s s' : Source} {n : Nat} {data : List UInt8}
    (h : s.read n = (.burst data, s')) : s'.size + data.length ≤ s.size := by
  obtain ⟨current, later⟩ := s
  unfold read at h
  split at h
  · rename_i byte rest hc
    simp only [Prod.mk.injEq, Delivery.burst.injEq] at h hc
    obtain ⟨rfl, rfl⟩ := h
    subst hc
    have hsplit : ((byte :: rest).take n).length + ((byte :: rest).drop n).length
        = (byte :: rest).length := by
      rw [← List.length_append, List.take_append_drop]
    simp only [size] at hsplit ⊢
    omega
  · rename_i hc
    simp only at hc
    subst hc
    split at h
    · simp only [Prod.mk.injEq, Delivery.burst.injEq] at h
      obtain ⟨rfl, rfl⟩ := h
      simp
    · rename_i burst more hl
      simp only [Prod.mk.injEq, Delivery.burst.injEq] at h hl
      obtain ⟨rfl, rfl⟩ := h
      subst hl
      have hsplit : (burst.take n).length + (burst.drop n).length = burst.length := by
        rw [← List.length_append, List.take_append_drop]
      simp only [size, Delivery.sizes, Delivery.size, List.length_nil]
      omega
    · simp at h
    · simp at h

/-- An interruption uses up a delivery. -/
theorem size_read_interrupted {s s' : Source} {n : Nat} (h : s.read n = (.interrupted, s')) :
    s'.size < s.size := by
  obtain ⟨current, later⟩ := s
  unfold read at h
  split at h
  · simp at h
  · rename_i hc
    simp only at hc
    subst hc
    split at h
    · simp at h
    · simp at h
    · rename_i more hl
      simp only [Prod.mk.injEq, true_and] at h hl
      subst h hl
      simp only [size, Delivery.sizes, Delivery.size, List.length_nil]
      omega
    · simp at h

/-! ### Filling -/

/-- Reads until there are `n` bytes, or no more are to be had. Interruptions are passed over; a
failure loses the bytes read so far. -/
def fill (s : Source) (n : Nat) : Except String (List UInt8) × Source :=
  if n = 0 then (.ok [], s)
  else
    match _hread : s.read n with
    | (.burst [], s') => (.ok [], s')
    | (.burst (byte :: data), s') =>
      match s'.fill (n - (byte :: data).length) with
      | (.ok more, s'') => (.ok (byte :: data ++ more), s'')
      | (.error message, s'') => (.error message, s'')
    | (.interrupted, s') => s'.fill n
    | (.failed message, s') => (.error message, s')
termination_by s.size
decreasing_by
  · have hsize := size_read_burst _hread
    simp only [List.length_cons] at hsize
    omega
  · exact size_read_interrupted _hread

/-- What a fill brings out is gone from the source. -/
theorem size_fill {s s' : Source} {n : Nat} {data : List UInt8}
    (h : s.fill n = (.ok data, s')) : s'.size + data.length ≤ s.size := by
  fun_induction fill s n generalizing s' data with
  | case1 s =>
    simp only [Prod.mk.injEq, Except.ok.injEq] at h
    obtain ⟨rfl, rfl⟩ := h
    simp
  | case2 s n _ t hread =>
    simp only [Prod.mk.injEq, Except.ok.injEq] at h
    obtain ⟨rfl, rfl⟩ := h
    simpa using size_read_burst hread
  | case3 s n _ byte burst t hread more u hfill ih =>
    simp only [Prod.mk.injEq, Except.ok.injEq] at h
    obtain ⟨rfl, rfl⟩ := h
    have hrest := ih hfill
    have hhead := size_read_burst hread
    simp only [List.length_append] at hrest hhead ⊢
    omega
  | case4 => simp at h
  | case5 s n _ t hread ih =>
    have hrest := ih h
    have hhead := size_read_interrupted hread
    omega
  | case6 => simp at h

end Source

end CaptureReport.Stream
