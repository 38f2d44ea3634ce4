import CaptureReport.Proofs.Stream.Source
import Mathlib.Data.List.Basic

/-!
# Blocks of a source

Filling a buffer again and again cuts a source into blocks. All that decides on them is how many
bytes there are before the stop and what the stop is: as long as there are enough bytes, a fill
brings out a full block and leaves the rest, and the fill that runs out of bytes comes to the stop
and goes just past it. If the stop is an empty read, that fill brings out the bytes that were left.
These may be none, when the full blocks have used up all bytes; then the capture is not known to be
over until one more fill has been made.

A source goes on beyond its stop, for instance where a terminal is typed at again after an end of
input. Nothing of that is seen in the blocks.

## Main results

* `Source.fill_of_le`, `Source.fill_of_lt`: what a fill brings out, and what it leaves.
* `Source.fills_of_le`: the full blocks, one after another.
* `Source.fills_in_blocks`: all fills up to the stop, whatever bursts the bytes come in.
-/

namespace CaptureReport.Stream

/-- The deliveries beyond the first stop. -/
def Delivery.beyond : List Delivery → List Delivery
  | .burst (_ :: _) :: rest | .interrupted :: rest => beyond rest
  | .burst [] :: rest | .failed _ :: rest => rest
  | [] => []

namespace Source

/-- The source just past its stop. -/
def beyond (s : Source) : Source where
  later := Delivery.beyond s.later

/-- What a fill comes to that meets the stop with some bytes in hand: those bytes, or the failure
that the source stops with. -/
def atStop (s : Source) (data : List UInt8) : Except String (List UInt8) :=
  match s.fault with
  | none => .ok data
  | some message => .error message

/-- What is **left** of a source once its first `k` bytes are gone: the other bytes, the same stop,
and the same beyond it. -/
structure Left (s : Source) (k : Nat) (rest : Source) : Prop where
  bytes : rest.bytes = s.bytes.drop k
  fault : rest.fault = s.fault
  beyond : rest.beyond = s.beyond

variable {s s' rest t : Source} {n k : Nat}

theorem left_zero (s : Source) : s.Left 0 s :=
  ⟨rfl, rfl, rfl⟩

theorem Left.trans {j : Nat} (h : s.Left j rest) (h' : rest.Left k t) : s.Left (j + k) t where
  bytes := by rw [h'.bytes, h.bytes, List.drop_drop]
  fault := h'.fault.trans h.fault
  beyond := h'.beyond.trans h.beyond

/-! ### One fill -/

/-- The read that meets the stop goes just past it; until then what lies beyond is left alone. -/
theorem read_beyond {delivery : Delivery} (hn : n ≠ 0) (h : s.read n = (delivery, s')) :
    match delivery with
    | .burst [] | .failed _ => s' = s.beyond
    | .burst (_ :: _) | .interrupted => s'.beyond = s.beyond := by
  obtain ⟨current, later⟩ := s
  obtain ⟨m, rfl⟩ := Nat.exists_eq_succ_of_ne_zero hn
  cases current with
  | cons byte rest =>
    obtain ⟨rfl, rfl⟩ := Prod.mk.inj h
    rfl
  | nil =>
    cases later with
    | nil =>
      obtain ⟨rfl, rfl⟩ := Prod.mk.inj h
      rfl
    | cons first later =>
      cases first with
      | burst data =>
        obtain ⟨rfl, rfl⟩ := Prod.mk.inj h
        cases data <;> rfl
      | interrupted | failed message =>
        obtain ⟨rfl, rfl⟩ := Prod.mk.inj h
        rfl

/-- A fill that finds enough bytes stays before the stop, and one that does not goes just
past it. -/
theorem beyond_fill (s : Source) (n : Nat) :
    (n ≤ s.bytes.length → (s.fill n).2.beyond = s.beyond) ∧
      (s.bytes.length < n → (s.fill n).2 = s.beyond) := by
  fun_induction fill s n with
  | case1 s => exact ⟨fun _ => rfl, fun hlt => absurd hlt (Nat.not_lt_zero _)⟩
  | case2 s n hn t hread =>
    obtain ⟨hbytes, -⟩ := read_spec hn hread
    rw [hbytes]
    exact ⟨fun hle => absurd (Nat.le_zero.mp hle) hn, fun _ => read_beyond hn hread⟩
  | case3 s n hn byte data t hread more u hfill ih
  | case4 s n hn byte data t hread message u hfill ih =>
    obtain ⟨hbytes, -, hlen⟩ := read_spec hn hread
    have hbeyond : t.beyond = s.beyond := read_beyond hn hread
    rw [hfill, hbeyond] at ih
    rw [hbytes, List.length_append]
    exact ⟨fun hle => ih.1 (by omega), fun hlt => ih.2 (by omega)⟩
  | case5 s n hn t hread ih =>
    obtain ⟨hbytes, -⟩ := read_spec hn hread
    have hbeyond : t.beyond = s.beyond := read_beyond hn hread
    rw [hbytes, hbeyond] at ih
    exact ih
  | case6 s n hn message t hread =>
    obtain ⟨hbytes, -⟩ := read_spec hn hread
    rw [hbytes]
    exact ⟨fun hle => absurd (Nat.le_zero.mp hle) hn, fun _ => read_beyond hn hread⟩

/-- **Enough bytes**: a fill brings out as many as it wants and leaves the rest. -/
theorem fill_of_le (h : n ≤ s.bytes.length) :
    ∃ rest, s.fill n = (.ok (s.bytes.take n), rest) ∧ s.Left n rest := by
  have hspec := s.fill_spec n
  have hbeyond := (s.beyond_fill n).1 h
  rcases hfill : s.fill n with ⟨outcome, rest⟩
  rw [hfill] at hspec hbeyond
  cases outcome with
  | error message => exact absurd hspec.1 (Nat.not_lt.mpr h)
  | ok data =>
    obtain ⟨rfl, hrest, -⟩ := hspec
    obtain ⟨hbytes, hfault⟩ := hrest h
    exact ⟨rest, rfl, hbytes, hfault, hbeyond⟩

/-- **Too few bytes**: a fill brings out those that there are or fails, and goes just past the
stop. -/
theorem fill_of_lt (h : s.bytes.length < n) : s.fill n = (s.atStop s.bytes, s.beyond) := by
  have hspec := s.fill_spec n
  have hbeyond := (s.beyond_fill n).2 h
  rcases hfill : s.fill n with ⟨outcome, rest⟩
  rw [hfill] at hspec hbeyond
  obtain rfl : rest = s.beyond := hbeyond
  cases outcome with
  | error message => rw [atStop, hspec.2]
  | ok data =>
    obtain ⟨rfl, -, hstop⟩ := hspec
    rw [atStop, hstop h, List.take_of_length_le (Nat.le_of_lt h)]

/-! ### Many fills -/

/-- What `k` fills bring out, one after another, and the source after the last of them. -/
def fills (s : Source) (n : Nat) : (k : Nat) → List (Except String (List UInt8)) × Source
  | 0 => ([], s)
  | k + 1 =>
    let (outcomes, rest) := s.fills n k
    let (outcome, last) := rest.fill n
    (outcomes ++ [outcome], last)

/-- The block with a number, if the bytes of a source are cut into blocks of `n`. -/
def block (s : Source) (n i : Nat) : List UInt8 :=
  (s.bytes.drop (i * n)).take n

/-- **As long as there are enough bytes**, fills bring out one full block after another. -/
theorem fills_of_le (h : k * n ≤ s.bytes.length) :
    ∃ rest, s.fills n k = ((List.range k).map fun i => .ok (s.block n i), rest) ∧
      s.Left (k * n) rest := by
  induction k with
  | zero =>
    rw [Nat.zero_mul]
    exact ⟨s, rfl, left_zero s⟩
  | succ k ih =>
    rw [Nat.succ_mul] at h
    obtain ⟨rest, hfills, hleft⟩ := ih (by omega)
    have hrest : rest.bytes.length = s.bytes.length - k * n := by
      rw [hleft.bytes, List.length_drop]
    obtain ⟨last, hfill, hlast⟩ := fill_of_le (s := rest) (n := n) (by omega)
    refine ⟨last, ?_, Nat.succ_mul k n ▸ hleft.trans hlast⟩
    rw [fills, hfills, List.range_succ, List.map_append]
    simp only [hfill, hleft.bytes]
    rfl

/-- The fill behind the full blocks comes to the stop. -/
theorem fills_succ_of_lt (hle : k * n ≤ s.bytes.length) (hlt : s.bytes.length < (k + 1) * n) :
    s.fills n (k + 1) =
      ((List.range k).map (fun i => .ok (s.block n i)) ++ [s.atStop (s.block n k)], s.beyond) := by
  obtain ⟨rest, hfills, hleft⟩ := fills_of_le hle
  have hrest : rest.bytes.length < n := by
    rw [Nat.succ_mul] at hlt
    rw [hleft.bytes, List.length_drop]
    omega
  have hblock : rest.bytes = s.block n k := by
    rw [block, ← hleft.bytes, List.take_of_length_le (Nat.le_of_lt hrest)]
  rw [fills, hfills]
  simp only [fill_of_lt hrest, atStop, hleft.fault, hleft.beyond, hblock]

/-! ### Blocks -/

theorem length_block (s : Source) (n i : Nat) :
    (s.block n i).length = min n (s.bytes.length - i * n) := by
  rw [block, List.length_take, List.length_drop]

/-- The first blocks, put together again. -/
theorem flatMap_block (s : Source) (n k : Nat) :
    (List.range k).flatMap (s.block n) = s.bytes.take (k * n) := by
  induction k with
  | zero => rw [Nat.zero_mul, List.range_zero, List.flatMap_nil, List.take_zero]
  | succ k ih =>
    rw [List.range_succ, List.flatMap_append, ih, List.flatMap_singleton, block, Nat.succ_mul,
      List.take_add]

/-- **Fills cut the bytes of a source into blocks.** One fill brings out the bytes that it wants and
leaves the rest, or comes to the stop with those that there are. One after another, fills bring out
full blocks, and the one behind these comes to the stop: with the last, shorter block, or with the
failure. The last block is empty if the full ones hold all bytes. What the fills bring out is the
same for all sources with these bytes and this stop. -/
theorem fills_in_blocks (s : Source) {n : Nat} (hn : 0 < n) :
    let full := s.bytes.length / n
    let blocks := fun k => (List.range k).map fun i => Except.ok (s.block n i)
    (n ≤ s.bytes.length →
      ∃ rest, s.fill n = (.ok (s.bytes.take n), rest) ∧ (s.bytes.take n).length = n ∧
        s.Left n rest) ∧
    (s.bytes.length < n → s.fill n = (s.atStop s.bytes, s.beyond)) ∧
    (List.range (full + 1)).flatMap (s.block n) = s.bytes ∧
    (∀ i < full, (s.block n i).length = n) ∧
    (s.block n full).length = s.bytes.length % n ∧
    (∀ k ≤ full, ∃ rest, s.fills n k = (blocks k, rest) ∧ s.Left (k * n) rest) ∧
    s.fills n (full + 1) = (blocks full ++ [s.atStop (s.block n full)], s.beyond) ∧
    (n ∣ s.bytes.length → s.fault = none →
      s.fills n (full + 1) = (blocks full ++ [.ok []], s.beyond)) ∧
    ∀ t : Source, t.bytes = s.bytes → t.fault = s.fault → ∀ k ≤ full + 1,
      (t.fills n k).1 = (s.fills n k).1 := by
  intro full blocks
  have hfull : full * n ≤ s.bytes.length := Nat.div_mul_le_self _ _
  have hshort : s.bytes.length < (full + 1) * n :=
    (Nat.div_lt_iff_lt_mul hn).mp (Nat.lt_succ_self full)
  have hwithin {k : Nat} (hk : k ≤ full) : k * n ≤ s.bytes.length :=
    Nat.le_trans (Nat.mul_le_mul_right n hk) hfull
  have hlength : (s.block n full).length = s.bytes.length % n := by
    have hrest : s.bytes.length - full * n = s.bytes.length % n := Nat.mod_eq_sub_div_mul.symm
    rw [length_block, hrest]
    exact Nat.min_eq_right (Nat.le_of_lt (Nat.mod_lt _ hn))
  have hall : s.fills n (full + 1) = (blocks full ++ [s.atStop (s.block n full)], s.beyond) :=
    fills_succ_of_lt hfull hshort
  refine ⟨?_, fill_of_lt, ?_, ?_, hlength, fun k hk => fills_of_le (hwithin hk), hall, ?_, ?_⟩
  · intro hle
    obtain ⟨rest, hfill, hleft⟩ := fill_of_le hle
    exact ⟨rest, hfill, List.length_take_of_le hle, hleft⟩
  · rw [flatMap_block, List.take_of_length_le (Nat.le_of_lt hshort)]
  · intro i hi
    have hroom := hwithin hi
    rw [Nat.succ_mul] at hroom
    rw [length_block]
    omega
  · intro hdvd hend
    have hempty : s.block n full = [] := by
      rw [← List.length_eq_zero_iff, hlength, Nat.mod_eq_zero_of_dvd hdvd]
    rw [hall, atStop, hend, hempty]
  · intro t hbytes hfault k hk
    rcases Nat.lt_or_eq_of_le hk with hlt | rfl
    · have hle := Nat.le_of_lt_succ hlt
      obtain ⟨rest, hs, -⟩ := fills_of_le (hwithin hle)
      obtain ⟨rest', ht, -⟩ := fills_of_le (s := t) (hbytes ▸ hwithin hle)
      rw [hs, ht]
      simp only [block, hbytes]
    · rw [hall, fills_succ_of_lt (hbytes ▸ hfull) (hbytes ▸ hshort)]
      simp only [blocks, block, atStop, hbytes, hfault]

/-- Six bytes in bursts of two and four, with an interruption between them, or all at once: two
blocks of three, and one more fill to find the end. What was typed in after it is still there. -/
theorem fills_in_blocks_six :
    let s : Source := { later := [.burst [1, 2], .interrupted, .burst [3, 4, 5, 6], .burst [],
      .burst [7]] }
    let t : Source := .ofBytes [1, 2, 3, 4, 5, 6]
    0 < 3 ∧ 3 ≤ s.bytes.length ∧ 3 ∣ s.bytes.length ∧ s.fault = none ∧
      s.fills 3 3 = ([.ok [1, 2, 3], .ok [4, 5, 6], .ok []], { later := [.burst [7]] }) ∧
      t.bytes = s.bytes ∧ t.fault = s.fault ∧
      (t.fills 3 3).1 = [.ok [1, 2, 3], .ok [4, 5, 6], .ok []] := by
  intro s t
  have hdvd : 3 ∣ s.bytes.length := by decide
  have hfull : s.bytes.length / 3 = 2 := by decide
  obtain ⟨-, -, -, -, -, -, -, hend, hsame⟩ := fills_in_blocks s (n := 3) (by decide)
  rw [hfull] at hend hsame
  have hfills : s.fills 3 3 =
      ([.ok [1, 2, 3], .ok [4, 5, 6], .ok []], { later := [.burst [7]] }) := hend hdvd rfl
  refine ⟨by decide, by decide, hdvd, rfl, hfills, rfl, rfl, ?_⟩
  exact (hsame t rfl rfl 3 (by decide)).trans (congrArg Prod.fst hfills)

end Source

end CaptureReport.Stream
