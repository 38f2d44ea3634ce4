import CaptureReport.Proofs.Report.Layout
import CaptureReport.Proofs.Text.Lines
import CaptureReport.Proofs.Text.Scaled

/-!
# The lines of a layout

The layout of a report, line by line, and what one who reads the lines can tell them by. The lines
of the header have no colon. All other lines begin with a **key** and a colon: the name of the
channel, or `T` below a group that a trigger fell into.

## Main results

* `layout_eq_unlines`: the layout is made up of its lines, each ended.
* `lines_unlines`: lines are read as they were written.
* `payload?_keyed`: a line belongs to one key only.
-/

namespace CaptureReport.Report

open Text

/-! ### The lines -/

/-- The lines of the header. -/
def headerLines (device : Device) : List String :=
  banner ::
    match device.sampleRate with
    | none => []
    | some rate =>
      [s!"Acquisition with {device.selected.length}/{device.channels.length} channels at " ++
        rateText rate]

/-- The line that points at the trigger, not ended. -/
def pointerLine (mark : Nat) : String :=
  "T:" ++ String.ofList (List.replicate (mark + mark / 8) ' ') ++ s!"^ {mark}"

/-- The lines of a complete group. -/
def fullGroupLines (channels : List Channel) (samples : List Sample) (mark : Option Nat) :
    List String :=
  channels.map (fullLine samples) ++
    if channels.isEmpty then [] else mark.toList.map pointerLine

/-- The lines of what is left over at the end. -/
def lastGroupLines (channels : List Channel) (samples : List Sample) : List String :=
  if samples.isEmpty then [] else channels.map (lastLine samples)

/-- All lines of a layout. -/
def layoutLines (device : Device) (width : Nat) (r : Recording) : List String :=
  (if r.begun then headerLines device else []) ++
    ((List.range (r.groupCount width)).flatMap fun g =>
      fullGroupLines device.selected (r.group width g) (r.mark width g)) ++
    if r.ended then lastGroupLines device.selected (r.rest width) else []

@[simp] theorem unlines_nil : unlines [] = "" := rfl

theorem unlines_cons (line : String) (lines : List String) :
    unlines (line :: lines) = line ++ "\n" ++ unlines lines := by
  rw [unlines, List.map_cons, String.join_cons, unlines]

theorem unlines_append (lines more : List String) :
    unlines (lines ++ more) = unlines lines ++ unlines more := by
  rw [unlines, List.map_append, String.join_append, unlines, unlines]

theorem unlines_flatMap {α : Type} (items : List α) (lines : α → List String) :
    unlines (items.flatMap lines) = String.join (items.map fun item => unlines (lines item)) := by
  induction items with
  | nil => rfl
  | cons item items ih =>
    rw [List.flatMap_cons, unlines_append, ih, List.map_cons, String.join_cons]

theorem header_eq_unlines (device : Device) : header device = unlines (headerLines device) := by
  rw [header, headerLines, unlines_cons]
  cases device.sampleRate with
  | none => rfl
  | some rate => rw [unlines_cons, unlines_nil, String.append_empty]

theorem markLine_eq_unlines (mark : Nat) : markLine mark = unlines [pointerLine mark] := by
  rw [markLine, pointerLine, unlines_cons, unlines_nil, String.append_empty]
  simp only [String.append_assoc]
  rfl

theorem groupText_eq_unlines (channels : List Channel) (samples : List Sample)
    (mark : Option Nat) :
    groupText channels samples mark = unlines (fullGroupLines channels samples mark) := by
  rw [groupText, fullGroupLines, unlines_append]
  congr 1
  cases channels.isEmpty with
  | true => rfl
  | false =>
    cases mark with
    | none => rfl
    | some mark => exact markLine_eq_unlines mark

theorem lastLines_eq_unlines (channels : List Channel) (width : Nat) (r : Recording) :
    lastLines channels width r = unlines (lastGroupLines channels (r.rest width)) := by
  rw [lastLines, lastGroupLines]
  cases (r.rest width).isEmpty <;> rfl

/-- **The layout is made up of its lines**, each ended. -/
theorem layout_eq_unlines (device : Device) (width : Nat) (r : Recording) :
    layout device width r = unlines (layoutLines device width r) := by
  rw [layout, layoutLines, unlines_append, unlines_append, unlines_flatMap, groupLines,
    header_eq_unlines, lastLines_eq_unlines]
  simp only [groupText_eq_unlines]
  cases r.begun <;> cases r.ended <;> rfl

/-! ### Lines as they are read -/

/-- A text that is read as one **line** if it is written as one. -/
structure IsLine (line : String) : Prop where
  noFeed : '\n' ∉ line.toList
  noReturn : line.toList.getLast? ≠ some '\r'

/-- **Lines are read as they were written.** -/
theorem lines_unlines {ls : List String} (h : ∀ line ∈ ls, IsLine line) :
    lines (unlines ls).toList = ls.map String.toList := by
  induction ls with
  | nil => rfl
  | cons line ls ih =>
    obtain ⟨hfeed, hreturn⟩ := h line List.mem_cons_self
    have hrest : ∀ other ∈ ls, IsLine other := fun other hother =>
      h other (List.mem_cons_of_mem _ hother)
    have htext : (unlines (line :: ls)).toList = line.toList ++ '\n' :: (unlines ls).toList := by
      rw [unlines_cons, String.toList_append, String.toList_append, List.append_assoc]
      rfl
    rw [htext, lines_cons hfeed, dropReturn_eq_self hreturn, ih hrest, List.map_cons]

/-- What stands behind the key of a line, if the line has that key. -/
def payload? (key : String) (line : List Char) : Option (List Char) :=
  line.dropPrefix? (key.toList ++ [':'])

/-- A line without a colon has no key. -/
theorem payload?_eq_none {line : List Char} (h : ':' ∉ line) (key : String) :
    payload? key line = none := by
  refine Option.eq_none_iff_forall_ne_some.mpr fun rest hrest => h ?_
  obtain ⟨front, hline, hfront⟩ := List.dropPrefix?_eq_some_iff.mp hrest
  rw [hline, eq_of_beq hfront]
  simp

/-- The key of a line goes up to its first colon. -/
theorem takeWhile_keyed {key : String} (hkey : ':' ∉ key.toList) (rest : List Char) :
    (key.toList ++ ':' :: rest).takeWhile (· ≠ ':') = key.toList := by
  have hall : ∀ c ∈ key.toList, decide (c ≠ ':') = true := by
    intro c hc
    exact decide_eq_true fun heq => hkey (heq ▸ hc)
  rw [List.takeWhile_append_of_pos hall, List.takeWhile_cons_of_neg (by decide), List.append_nil]

/-- **A line belongs to one key only.** -/
theorem payload?_keyed {key other : String} (hkey : ':' ∉ key.toList) (hother : ':' ∉ other.toList)
    (rest : List Char) :
    payload? key (other.toList ++ ':' :: rest) = if other = key then some rest else none := by
  by_cases heq : other = key
  · rw [if_pos heq, heq, payload?, ← List.singleton_append, ← List.append_assoc]
    exact List.dropPrefix?_append_of_beq rest (beq_self_eq_true _)
  · rw [if_neg heq]
    refine Option.eq_none_iff_forall_ne_some.mpr fun found hfound => heq ?_
    obtain ⟨front, hline, hfront⟩ := List.dropPrefix?_eq_some_iff.mp hfound
    rw [eq_of_beq hfront, List.append_assoc, List.singleton_append] at hline
    rw [← String.toList_inj, ← takeWhile_keyed hother rest, hline, takeWhile_keyed hkey]

/-! ### The lines of the header -/

/-- A character that does not end a line and is not a colon. -/
def isPlain (c : Char) : Bool :=
  c ≠ ':' && c ≠ '\n' && c ≠ '\r'

/-- A **plain** text has plain characters only. -/
def IsPlain (text : String) : Prop :=
  text.toList.all isPlain = true

instance (text : String) : Decidable (IsPlain text) :=
  inferInstanceAs (Decidable (_ = true))

theorem isPlain_iff {text : String} : IsPlain text ↔ ∀ c ∈ text.toList, isPlain c = true :=
  List.all_eq_true

theorem IsPlain.append {text more : String} (h : IsPlain text) (hmore : IsPlain more) :
    IsPlain (text ++ more) := by
  rw [IsPlain, String.toList_append, List.all_append, h, hmore]
  rfl

/-- A plain text is a line without a key. -/
theorem IsPlain.isLine {line : String} (h : IsPlain line) : IsLine line ∧ ':' ∉ line.toList := by
  have hall := isPlain_iff.mp h
  refine ⟨⟨?_, ?_⟩, ?_⟩
  · intro hmem
    cases hall _ hmem
  · intro hlast
    cases hall _ (List.mem_of_getLast? hlast)
  · intro hmem
    cases hall _ hmem

theorem isPlain_of_isDigit {c : Char} (h : c.isDigit = true) : isPlain c = true := by
  have hcolon : c ≠ ':' := by rintro rfl; cases h
  have hfeed : c ≠ '\n' := by rintro rfl; cases h
  have hreturn : c ≠ '\r' := by rintro rfl; cases h
  simp [isPlain, hcolon, hfeed, hreturn]

theorem isPlain_toString (n : Nat) : IsPlain (toString n) := by
  refine isPlain_iff.mpr fun c hc => ?_
  rw [Nat.toString_eq_repr, Nat.toList_repr] at hc
  exact isPlain_of_isDigit (Nat.isDigit_of_mem_toDigits (by decide) (by decide) hc)

theorem isPlain_fractionText (e remainder : Nat) :
    IsPlain (String.ofList (fractionText e remainder)) := by
  refine isPlain_iff.mpr fun c hc => ?_
  rw [String.toList_ofList, fractionText] at hc
  split at hc
  · cases hc
  · rcases List.mem_cons.mp hc with rfl | hrest
    · decide
    · exact isPlain_of_isDigit (isDigit_of_mem_dropTrailingZeros hrest)

theorem isPlain_rateText (rate : Nat) : IsPlain (rateText rate) := by
  have hsymbols : ∀ e ∈ List.range 7, IsPlain (scaleSymbols.getD e "") := by decide
  have hscale : scale rate ∈ List.range 7 := List.mem_range.mpr (Nat.lt_succ_of_le (scale_le rate))
  rw [rateText, scaledText]
  refine .append (.append (.append (.append (isPlain_toString _) ?_) (by decide))
    (hsymbols _ hscale)) (by decide)
  split
  · decide
  · exact isPlain_fractionText _ _

/-- The lines of the header have no key. -/
theorem isPlain_of_mem_headerLines {device : Device} {line : String}
    (h : line ∈ headerLines device) : IsPlain line := by
  rcases List.mem_cons.mp h with rfl | hrest
  · decide
  · cases hrate : device.sampleRate with
    | none =>
      rw [hrate] at hrest
      cases hrest
    | some rate =>
      rw [hrate, List.mem_singleton] at hrest
      rw [hrest]
      refine .append (.append (.append (.append (.append ?_ (isPlain_toString _)) ?_)
        (isPlain_toString _)) ?_) (isPlain_rateText rate) <;> decide

/-! ### Keyed lines -/

/-- The cells of bytes, as characters. -/
def cells (bytes : List UInt8) : List Char :=
  bytes.flatMap fun byte => hexPair byte ++ [' ']

theorem isPlain_cells (bytes : List UInt8) : ∀ c ∈ cells bytes, isPlain c = true := by
  have hdigits : ∀ n ∈ List.range 16, isPlain (Nat.digitChar n) = true := by decide
  intro c hc
  obtain ⟨byte, -, hcell⟩ := List.mem_flatMap.mp hc
  have hbyte : byte.toNat < 256 := byte.toNat_lt
  rcases List.mem_append.mp hcell with hpair | hblank
  · rcases List.mem_cons.mp hpair with rfl | hlow
    · exact hdigits _ (List.mem_range.mpr (by omega))
    · rw [List.mem_singleton.mp hlow]
      exact hdigits _ (List.mem_range.mpr (Nat.mod_lt _ (by decide)))
  · rw [List.mem_singleton.mp hblank]
    decide

/-- A key without a line feed, a colon, and plain characters make up a line. -/
theorem isLine_keyed {line key : String} {rest : List Char}
    (htext : line.toList = key.toList ++ ':' :: rest) (hkey : '\n' ∉ key.toList)
    (hrest : ∀ c ∈ rest, isPlain c = true) : IsLine line := by
  have hnone : ∀ c, c ≠ ':' → isPlain c = false → c ∉ ':' :: rest := by
    intro c hcolon hnot hmem
    rcases List.mem_cons.mp hmem with heq | hmem
    · exact hcolon heq
    · rw [hrest c hmem] at hnot
      cases hnot
  constructor
  · rw [htext, List.mem_append]
    exact fun hmem => hmem.elim hkey (hnone _ (by decide) (by decide))
  · rw [htext, List.getLast?_append_cons]
    exact fun hlast => hnone _ (by decide) (by decide) (List.mem_of_getLast? hlast)

theorem toList_lineText (name : String) (bytes : List UInt8) :
    (lineText name bytes).toList = name.toList ++ ':' :: cells bytes := by
  have hcells : (String.join (bytes.map cell)).toList = cells bytes := by
    rw [String.toList_join, List.flatMap_map]
    simp only [cell, String.toList_ofList, cells]
  rw [lineText, String.toList_append, String.toList_append, hcells, List.append_assoc]
  rfl

theorem isLine_lineText {name : String} (hname : '\n' ∉ name.toList) (bytes : List UInt8) :
    IsLine (lineText name bytes) :=
  isLine_keyed (toList_lineText name bytes) hname (isPlain_cells bytes)

theorem toList_pointerLine (mark : Nat) :
    (pointerLine mark).toList = 'T' :: ':' ::
      (List.replicate (mark + mark / 8) ' ' ++ '^' :: ' ' :: (toString mark).toList) := by
  simp only [pointerLine, String.toList_append, String.toList_ofList]
  rfl

/-- The line that points at a trigger has the key `T`. -/
theorem pointerLine_spec (mark : Nat) :
    IsLine (pointerLine mark) ∧
      ∃ rest, (pointerLine mark).toList = "T".toList ++ ':' :: rest := by
  have htext : (pointerLine mark).toList = "T".toList ++ ':' ::
      (List.replicate (mark + mark / 8) ' ' ++ '^' :: ' ' :: (toString mark).toList) :=
    toList_pointerLine mark
  refine ⟨isLine_keyed htext (by decide) fun c hc => ?_, _, htext⟩
  rcases List.mem_append.mp hc with hblank | hcaret
  · rw [List.eq_of_mem_replicate hblank]
    decide
  · rcases List.mem_cons.mp hcaret with rfl | hnumber
    · decide
    · rcases List.mem_cons.mp hnumber with rfl | hdigit
      · decide
      · exact isPlain_iff.mp (isPlain_toString mark) c hdigit

end CaptureReport.Report
