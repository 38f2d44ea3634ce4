import CaptureReport.Command.Arguments

/-!
# What holds of all options

Arguments are read one at a time, and all that reading does to the options is to give one a value,
to set a flag or to name the capture. So what holds of no options at all and is kept by each of
these holds of the options of every command line.

## Main results

* `Kept.parse`: the induction along a command line.
* `fits_of_parse`: the numbers of a command line fit in a word.
-/

namespace CaptureReport.Command

/-- Two steps go through if the first does and the second does with what the first has given. -/
theorem bind_eq_ok_iff {ε α β : Type} {first : Except ε α} {next : α → Except ε β} {b : β} :
    (first >>= next) = .ok b ↔ ∃ a, first = .ok a ∧ next a = .ok b := by
  cases first with
  | error problem =>
    constructor
    · rintro ⟨⟩
    · rintro ⟨a, ⟨⟩, -⟩
  | ok a =>
    constructor
    · intro h
      exact ⟨a, rfl, h⟩
    · rintro ⟨_, ⟨⟩, h⟩
      exact h

/-- A property of options that is **kept** while arguments are read. -/
structure Kept (P : Options → Prop) : Prop where
  give : ∀ {o o' : Options} {option : Valued} {text : String},
    P o → o.give option text = .ok o' → P o'
  raise : ∀ {o o' : Options} {flag : Flag}, P o → o.raise flag = .ok o' → P o'
  name : ∀ {o o' : Options} {text : String}, P o → o.name text = .ok o' → P o'

namespace Kept

variable {P : Options → Prop} {o o' : Options} {pending : Pending}

/-! ### Single arguments -/

theorem readLong (hP : Kept P) (ho : P o) {cs : List Char}
    (h : Command.readLong o cs = .ok (o', pending)) : P o' := by
  rw [Command.readLong] at h
  split at h
  · obtain ⟨rfl, -⟩ := Prod.mk.inj (Except.ok.inj h)
    exact ho
  · obtain ⟨given, hgiven, h⟩ := bind_eq_ok_iff.mp h
    obtain ⟨rfl, -⟩ := Prod.mk.inj (Except.ok.inj h)
    exact hP.give ho hgiven
  · obtain ⟨raised, hraised, h⟩ := bind_eq_ok_iff.mp h
    obtain ⟨rfl, -⟩ := Prod.mk.inj (Except.ok.inj h)
    exact hP.raise ho hraised
  · cases h
  · cases h

theorem readShort (hP : Kept P) (ho : P o) {cs : List Char}
    (h : Command.readShort o cs = .ok (o', pending)) : P o' := by
  induction cs generalizing o with
  | nil =>
    obtain ⟨rfl, -⟩ := Prod.mk.inj (Except.ok.inj h)
    exact ho
  | cons c cs ih =>
    rw [Command.readShort.eq_def] at h
    dsimp only at h
    split at h
    · cases h
    · obtain ⟨raised, hraised, h⟩ := bind_eq_ok_iff.mp h
      exact ih (hP.raise ho hraised) h
    · split at h
      · obtain ⟨rfl, -⟩ := Prod.mk.inj (Except.ok.inj h)
        exact ho
      · obtain ⟨given, hgiven, h⟩ := bind_eq_ok_iff.mp h
        obtain ⟨rfl, -⟩ := Prod.mk.inj (Except.ok.inj h)
        exact hP.give ho hgiven
      · obtain ⟨given, hgiven, h⟩ := bind_eq_ok_iff.mp h
        obtain ⟨rfl, -⟩ := Prod.mk.inj (Except.ok.inj h)
        exact hP.give ho hgiven

theorem readArgument (hP : Kept P) (ho : P o) {arg : String}
    (h : Command.readArgument o arg = .ok (o', pending)) : P o' := by
  rw [Command.readArgument] at h
  split at h
  · exact hP.readLong ho h
  · exact hP.readShort ho h
  · obtain ⟨named, hnamed, h⟩ := bind_eq_ok_iff.mp h
    obtain ⟨rfl, -⟩ := Prod.mk.inj (Except.ok.inj h)
    exact hP.name ho hnamed

/-! ### Whole command lines -/

variable {args : List String}

theorem readNames (hP : Kept P) (ho : P o) (h : Command.readNames args o = .ok o') : P o' := by
  induction args generalizing o with
  | nil =>
    obtain rfl := Except.ok.inj h
    exact ho
  | cons arg args ih =>
    obtain ⟨named, hnamed, h⟩ := bind_eq_ok_iff.mp h
    exact ih (hP.name ho hnamed) h

theorem readAll (hP : Kept P) (ho : P o) (h : Command.readAll pending args o = .ok o') : P o' := by
  induction args generalizing o pending with
  | nil =>
    cases pending with
    | nothing =>
      obtain rfl := Except.ok.inj h
      exact ho
    | value option => cases h
  | cons arg args ih =>
    cases pending with
    | nothing =>
      rw [Command.readAll] at h
      split at h
      · exact hP.readNames ho h
      · obtain ⟨⟨next, pending⟩, hnext, h⟩ := bind_eq_ok_iff.mp h
        exact ih (hP.readArgument ho hnext) h
    | value option =>
      rw [Command.readAll] at h
      split at h
      · obtain ⟨given, hgiven, h⟩ := bind_eq_ok_iff.mp h
        exact ih (hP.give ho hgiven) h
      · cases h

/-- **What holds of no options and is kept holds of the options of a command line.** -/
theorem parse (hP : Kept P) (hinit : P {}) (h : Command.parse args = .ok o) : P o :=
  hP.readAll hinit h

end Kept

/-! ### Numbers -/

/-- Options whose numbers fit in a word. -/
structure Options.Fits (o : Options) : Prop where
  channels : ∀ n ∈ o.channels, n < Text.wordLimit
  unitSize : ∀ n ∈ o.unitSize, n < Text.wordLimit
  sampleRate : ∀ n ∈ o.sampleRate, n < Text.wordLimit
  enable : ∀ indices ∈ o.enable, ∀ n ∈ indices, n < Text.wordLimit
  width : ∀ n ∈ o.width, n < Text.wordLimit
  triggerAt : ∀ n ∈ o.triggerAt, n < Text.wordLimit

theorem Options.fits_default : ({} : Options).Fits :=
  ⟨nofun, nofun, nofun, nofun, nofun, nofun⟩

theorem lt_wordLimit_of_word? {text : String} {n : Nat} (h : word? text = some n) :
    n < Text.wordLimit :=
  (Text.word?_eq_some_iff.mp h).2

/-- A number that is taken for an option fits. -/
theorem lt_wordLimit_of_once {text : String} {old new : Option Nat}
    (h : once (word? text) old = .ok new) : ∀ n ∈ new, n < Text.wordLimit := by
  intro n hn
  cases old with
  | some old => cases h
  | none =>
    cases hword : word? text with
    | none =>
      rw [hword] at h
      cases h
    | some value =>
      rw [hword] at h
      obtain rfl := Except.ok.inj h
      obtain rfl := Option.some.inj hn
      exact lt_wordLimit_of_word? hword

theorem lt_wordLimit_of_mapM {texts : List String} {indices : List Nat}
    (h : texts.mapM word? = some indices) : ∀ n ∈ indices, n < Text.wordLimit := by
  induction texts generalizing indices with
  | nil =>
    obtain rfl := Option.some.inj h
    exact nofun
  | cons text texts ih =>
    rw [List.mapM_cons] at h
    obtain ⟨first, hfirst, h⟩ := Option.bind_eq_some_iff.mp h
    obtain ⟨later, hlater, h⟩ := Option.bind_eq_some_iff.mp h
    obtain rfl := Option.some.inj h
    exact List.forall_mem_cons.mpr ⟨lt_wordLimit_of_word? hfirst, ih hlater⟩

theorem Options.Fits.give {o o' : Options} {option : Valued} {text : String} (ho : o.Fits)
    (h : o.give option text = .ok o') : o'.Fits := by
  cases option with
  | config | output | format =>
    obtain ⟨given, -, h⟩ := bind_eq_ok_iff.mp h
    obtain rfl := Except.ok.inj h
    exact { ho with }
  | channels =>
    obtain ⟨given, hgiven, h⟩ := bind_eq_ok_iff.mp h
    obtain rfl := Except.ok.inj h
    exact { ho with channels := lt_wordLimit_of_once hgiven }
  | unitSize =>
    obtain ⟨given, hgiven, h⟩ := bind_eq_ok_iff.mp h
    obtain rfl := Except.ok.inj h
    exact { ho with unitSize := lt_wordLimit_of_once hgiven }
  | sampleRate =>
    obtain ⟨given, hgiven, h⟩ := bind_eq_ok_iff.mp h
    obtain rfl := Except.ok.inj h
    exact { ho with sampleRate := lt_wordLimit_of_once hgiven }
  | width =>
    obtain ⟨given, hgiven, h⟩ := bind_eq_ok_iff.mp h
    obtain rfl := Except.ok.inj h
    exact { ho with width := lt_wordLimit_of_once hgiven }
  | triggerAt =>
    obtain ⟨given, hgiven, h⟩ := bind_eq_ok_iff.mp h
    obtain rfl := Except.ok.inj h
    exact { ho with triggerAt := lt_wordLimit_of_once hgiven }
  | enable =>
    rw [Options.give] at h
    split at h
    · rename_i indices hindices
      obtain rfl := Except.ok.inj h
      refine { ho with enable := ?_ }
      rintro _ ⟨⟩ n hn
      -- The indices come behind those that were given before.
      rcases List.mem_append.mp hn with hold | hnew
      · cases henable : o.enable with
        | none => simp [henable] at hold
        | some old =>
          rw [henable, Option.getD_some] at hold
          exact ho.enable old henable n hold
      · exact lt_wordLimit_of_mapM hindices n hnew
    · cases h

theorem kept_fits : Kept Options.Fits where
  give := Options.Fits.give
  raise := by
    intro o o' flag ho h
    cases flag with
    | listFormats =>
      rw [Options.raise] at h
      split at h
      · cases h
      · obtain rfl := Except.ok.inj h
        exact { ho with }
    | verbose =>
      obtain rfl := Except.ok.inj h
      exact { ho with }
    | help | version => cases h
  name := by
    intro o o' text ho h
    obtain ⟨named, -, h⟩ := bind_eq_ok_iff.mp h
    obtain rfl := Except.ok.inj h
    exact { ho with }

/-- **The numbers of a command line fit in a word.** -/
theorem fits_of_parse {args : List String} {o : Options} (h : parse args = .ok o) : o.Fits :=
  kept_fits.parse Options.fits_default h

end CaptureReport.Command
