import CaptureReport.Stream.Sink
import Mathlib.Data.List.Basic

/-!
# What a sink takes

A sink is **steady** if it takes at least one byte of every write until it is full. How many it
takes each time does not matter to the one who writes all: a steady sink ends up with the bytes it
has **room** for, which are all of them or the front part up to its limit, and only in the second
case it fails.

## Main results

* `Sink.writeAll_spec`: what becomes of bytes that are written to a steady sink.
* `Sink.Took.fits_append`, `Sink.Took.fitting_append`: bytes that are written one part after the
  other are taken as if they were written together.
-/

namespace CaptureReport.Stream

namespace Sink

/-- A sink that takes at least one byte at a time, unless it is full. -/
def Steady (s : Sink) : Prop :=
  s.perWrite ≠ some 0

/-- A sink has room for all of some bytes. -/
def Fits (s : Sink) (bytes : List UInt8) : Prop :=
  ∀ n ∈ s.room, bytes.length ≤ n

/-- The front part of some bytes that a sink has room for. -/
def fitting (s : Sink) (bytes : List UInt8) : List UInt8 :=
  atMost s.room bytes

/-- A sink **took** some bytes and is otherwise the same; how many writes it needed is left out. -/
structure Took (s : Sink) (bytes : List UInt8) (s' : Sink) : Prop where
  perWrite : s'.perWrite = s.perWrite
  limit : s'.limit = s.limit
  full : s'.full = s.full
  flushFault : s'.flushFault = s.flushFault
  flushedAt : s'.flushedAt = s.flushedAt
  received : s'.received.toList = s.received.toList ++ bytes

variable {s s' s'' : Sink} {front back : List UInt8}

/-! ### Taking one part after the other -/

theorem Took.refl (s : Sink) : s.Took [] s :=
  ⟨rfl, rfl, rfl, rfl, rfl, (List.append_nil _).symm⟩

theorem Took.trans (h : s.Took front s') (h' : s'.Took back s'') : s.Took (front ++ back) s'' where
  perWrite := h'.perWrite.trans h.perWrite
  limit := h'.limit.trans h.limit
  full := h'.full.trans h.full
  flushFault := h'.flushFault.trans h.flushFault
  flushedAt := h'.flushedAt.trans h.flushedAt
  received := by rw [h'.received, h.received, List.append_assoc]

theorem Took.steady (h : s.Took front s') (hsteady : s.Steady) : s'.Steady :=
  fun hzero => hsteady (h.perWrite.symm.trans hzero)

theorem Took.size_received (h : s.Took front s') :
    s'.received.size = s.received.size + front.length := by
  rw [← Array.length_toList, h.received, List.length_append, Array.length_toList]

theorem Took.room (h : s.Took front s') : s'.room = s.room.map (· - front.length) := by
  rw [Sink.room, Sink.room, h.limit, h.size_received, Option.map_map]
  congr 1
  funext most
  exact Nat.sub_add_eq most s.received.size front.length

theorem fits_nil (s : Sink) : s.Fits [] :=
  fun n _ => Nat.zero_le n

theorem fitting_of_fits (h : s.Fits front) : s.fitting front = front := by
  rw [fitting]
  cases hroom : s.room with
  | none => rfl
  | some n => exact List.take_of_length_le (h n hroom)

/-- What fits of bytes behind others is what fits of them once the others have been taken. -/
theorem Took.fits_append (h : s.Took front s') (hfits : s.Fits front) :
    s.Fits (front ++ back) ↔ s'.Fits back := by
  rw [Fits, Fits, h.room]
  cases hroom : s.room with
  | none => simp
  | some n =>
    have hle := hfits n hroom
    simp only [Option.map_some, Option.mem_def, Option.some.injEq, forall_eq', List.length_append]
    omega

theorem Took.fitting_append (h : s.Took front s') (hfits : s.Fits front) :
    s.fitting (front ++ back) = front ++ s'.fitting back := by
  rw [fitting, fitting, h.room]
  cases hroom : s.room with
  | none => rfl
  | some n =>
    rw [Option.map_some, atMost_some, atMost_some, List.take_append,
      List.take_of_length_le (hfits n hroom)]

/-- Behind bytes that do not fit no others do. -/
theorem not_fits_append (h : ¬ s.Fits front) (back : List UInt8) : ¬ s.Fits (front ++ back) := by
  refine fun hall => h fun n hn => ?_
  have hle := hall n hn
  rw [List.length_append] at hle
  omega

theorem fitting_append_of_not_fits (h : ¬ s.Fits front) (back : List UInt8) :
    s.fitting (front ++ back) = s.fitting front := by
  rw [fitting, fitting]
  rw [Fits] at h
  cases hroom : s.room with
  | none =>
    rw [hroom] at h
    simp at h
  | some n =>
    rw [hroom] at h
    have hlt : n < front.length := by simpa using h
    exact List.take_append_of_le_length (Nat.le_of_lt hlt)

/-! ### Writing -/

/-- A bound that is not zero leaves at least the first byte. -/
theorem atMost_cons {bound : Option Nat} (h : bound ≠ some 0) (byte : UInt8) (rest : List UInt8) :
    ∃ n, atMost bound (byte :: rest) = byte :: rest.take n := by
  cases bound with
  | none => exact ⟨rest.length, by rw [List.take_length]; rfl⟩
  | some most =>
    have hne : most ≠ 0 := fun hzero => h (congrArg some hzero)
    obtain ⟨n, rfl⟩ := Nat.exists_eq_succ_of_ne_zero hne
    exact ⟨n, List.take_succ_cons⟩

theorem fits_fitting (s : Sink) (bytes : List UInt8) : s.Fits (s.fitting bytes) := by
  intro n hn
  rw [Option.mem_def] at hn
  rw [fitting, hn]
  exact List.length_take_le n bytes

/-- A steady sink that is not full takes some bytes from the front, no more than it has room for. -/
theorem Steady.portion (h : s.Steady) (hroom : s.room ≠ some 0) (byte : UInt8)
    (rest : List UInt8) :
    ∃ n, s.portion (byte :: rest) = byte :: rest.take n ∧ s.Fits (byte :: rest.take n) := by
  have hpace : (s.pace s.writes.size).map (· + 1) ≠ some 0 := by simp
  obtain ⟨paced, hpaced⟩ := atMost_cons hpace byte rest
  obtain ⟨once, honce⟩ := atMost_cons h byte (rest.take paced)
  obtain ⟨n, hn⟩ := atMost_cons hroom byte ((rest.take paced).take once)
  have hall : s.portion (byte :: rest) = byte :: rest.take (min (min n once) paced) := by
    rw [Sink.portion, hpaced, honce, hn, List.take_take, List.take_take]
  refine ⟨_, hall, ?_⟩
  rw [← hall]
  exact fits_fitting s _

/-- The sink after a write that took some bytes. -/
def taking (s : Sink) (taken : List UInt8) : Sink :=
  { s with received := s.received ++ taken, writes := s.writes.push taken.length }

theorem took_taking (s : Sink) (taken : List UInt8) : s.Took taken (s.taking taken) :=
  ⟨rfl, rfl, rfl, rfl, rfl, Array.toList_appendList⟩

/-- One write to a steady sink that is not full, and what is then left to be written. -/
theorem Steady.writeAll (h : s.Steady) (hroom : s.room ≠ some 0) (byte : UInt8)
    (rest : List UInt8) :
    ∃ taken more s', byte :: rest = taken ++ more ∧ taken ≠ [] ∧ s.Fits taken ∧
      s.Took taken s' ∧ s.writeAll (byte :: rest) = s'.writeAll more := by
  obtain ⟨n, hportion, hfits⟩ := h.portion hroom byte rest
  have hwrite : s.write (byte :: rest)
      = (.ok (byte :: rest.take n), s.taking (byte :: rest.take n)) := by
    rw [write, hportion]
    split
    · rename_i hnil
      cases hnil
    · rfl
  have hsplit : byte :: rest = (byte :: rest.take n) ++ rest.drop n := by
    rw [List.cons_append, List.take_append_drop]
  have hleft : (byte :: rest).drop (byte :: rest.take n).length = rest.drop n :=
    (congrArg _ hsplit).trans List.drop_left
  refine ⟨_, _, _, hsplit, List.cons_ne_nil _ _, hfits, s.took_taking _, ?_⟩
  rw [Sink.writeAll, dif_neg (List.cons_ne_nil _ _), hwrite]
  exact congrArg (s.taking _).writeAll hleft

/-- Writing to a full sink fails. -/
theorem writeAll_of_full (hroom : s.room = some 0) {bytes : List UInt8} (hne : bytes ≠ []) :
    ∃ s', s.Took [] s' ∧ s.writeAll bytes = (.error (s.full.getD stalled), s') := by
  have hnone : s.portion bytes = [] := by
    rw [portion, hroom, atMost_some, List.take_zero]
  obtain ⟨perWrite, pace, limit, full, flushFault, received, writes, flushedAt⟩ := s
  rw [writeAll, dif_neg hne, write, hnone]
  cases full with
  | some message => exact ⟨_, .refl _, rfl⟩
  | none => exact ⟨_, took_taking _ [], rfl⟩

/-- **What becomes of bytes that are written to a steady sink.** It takes those it has room for, and
the writing fails exactly if these are not all. -/
theorem writeAll_spec (h : s.Steady) (bytes : List UInt8) :
    ∃ s', s.Took (s.fitting bytes) s' ∧
      (s.Fits bytes → s.writeAll bytes = (.ok (), s')) ∧
      (¬ s.Fits bytes → s.writeAll bytes = (.error (s.full.getD stalled), s')) := by
  induction hlen : bytes.length using Nat.strongRecOn generalizing s bytes with
  | ind length ih =>
    cases bytes with
    | nil =>
      rw [fitting_of_fits (fits_nil s)]
      exact ⟨s, .refl s, fun _ => writeAll_nil s, fun hnot => absurd (fits_nil s) hnot⟩
    | cons byte rest =>
      by_cases hroom : s.room = some 0
      · obtain ⟨s', htook, hwrite⟩ := writeAll_of_full hroom (List.cons_ne_nil byte rest)
        have hnot : ¬ s.Fits (byte :: rest) := fun hfits => Nat.not_succ_le_zero _ (hfits 0 hroom)
        have hnone : s.fitting (byte :: rest) = [] := by
          rw [fitting, hroom, atMost_some, List.take_zero]
        rw [hnone]
        exact ⟨s', htook, fun hfits => absurd hfits hnot, fun _ => hwrite⟩
      · obtain ⟨taken, more, next, hsplit, hne, hfits, htook, hwrite⟩ :=
          h.writeAll hroom byte rest
        have hshorter : more.length < length := by
          have hpos := List.length_pos_iff.mpr hne
          rw [← hlen, hsplit, List.length_append]
          omega
        obtain ⟨last, hlast, hdone, hfailed⟩ := ih _ hshorter (htook.steady h) more rfl
        rw [hwrite, hsplit, htook.fitting_append hfits, htook.fits_append hfits, ← htook.full]
        exact ⟨last, htook.trans hlast, hdone, hfailed⟩

/-! ### Any sink -/

/-- One write takes bytes from the front. -/
theorem portion_prefix (s : Sink) (bytes : List UInt8) : s.portion bytes <+: bytes := by
  have hatMost : ∀ (bound : Option Nat) (taken : List UInt8), atMost bound taken <+: taken := by
    intro bound taken
    cases bound with
    | none => exact List.prefix_refl taken
    | some n => exact List.take_prefix n taken
  exact (hatMost _ _).trans ((hatMost _ _).trans (hatMost _ _))

/-- One write that does not fail has taken what the sink would take. -/
theorem write_eq_ok {bytes taken : List UInt8} (h : s.write bytes = (.ok taken, s')) :
    taken = s.portion bytes ∧ s' = s.taking taken := by
  rw [write] at h
  split at h
  · cases h
  · obtain ⟨htaken, hnext⟩ := Prod.mk.inj h
    obtain rfl := Except.ok.inj htaken
    exact ⟨rfl, hnext.symm⟩

/-- **Writing that succeeds has written all bytes**, to whatever sink. -/
theorem took_of_writeAll {bytes : List UInt8} (h : s.writeAll bytes = (.ok (), s')) :
    s.Took bytes s' := by
  fun_induction writeAll s bytes with
  | case1 s =>
    obtain rfl : s = s' := congrArg Prod.snd h
    exact .refl s
  | case2 | case3 => cases h
  | case4 s bytes hne byte taken next hwrite ih =>
    obtain ⟨hportion, rfl⟩ := write_eq_ok hwrite
    obtain ⟨more, hmore⟩ := s.portion_prefix bytes
    rw [← hportion] at hmore
    have hrest := ih h
    rw [← hmore, List.drop_left] at hrest
    rw [← hmore]
    exact (s.took_taking _).trans hrest

/-! ### Sinks that never fail -/

/-- A sink that **never fails** takes at least one byte whenever there is one, without an end, and
can always be flushed. -/
structure NeverFails (s : Sink) : Prop where
  perWrite : s.perWrite ≠ some 0
  limit : s.limit = none
  flushFault : s.flushFault = none

theorem NeverFails.fits (h : s.NeverFails) (bytes : List UInt8) : s.Fits bytes := by
  intro n hn
  rw [room, h.limit] at hn
  cases hn

end Sink

end CaptureReport.Stream
