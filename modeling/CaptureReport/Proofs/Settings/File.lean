import CaptureReport.Proofs.Toml.Keys
import CaptureReport.Settings.File
import Mathlib.Data.Option.Basic

/-!
# What a settings file says

A document stands for settings through what is found under a few keys of three of its tables. So two
documents that differ in the values of some settings stand for settings that differ in these, and
all else that a document holds matters only as far as there must be no unreadable number in it.

A document is looked at through the entries of each of the three tables, in whatever form a table is
given. **Editing** a table means to give some of its keys new values and to leave the others as they
are; the order of keys does not count, nor whether a table of settings is written as a table or as
an array.

## Main results

* `Settings.ofTable?_eq_some_iff`: the settings that a document stands for.
* `settingOf?_given`: a setting that may have been given a value.
* `settingsTable?_of_edits`: a table of settings that has been edited can still be read.
-/

namespace CaptureReport

open Toml (Value Table)

/-! ### Values written and read -/

/-- A number as a value. -/
def valueOfWord (n : Nat) : Value :=
  .integer n

/-- A list of numbers as a value. -/
def valueOfWords (ns : List Nat) : Value :=
  .array (ns.map valueOfWord)

theorem wordOfValue?_valueOfWord {n : Nat} (h : n < Text.wordLimit) :
    wordOfValue? (valueOfWord n) = some n := by
  have hfits : (0 : Int) ≤ n ∧ (n : Int) < Text.wordLimit := by omega
  rw [valueOfWord, wordOfValue?, if_pos hfits, Int.toNat_natCast]

/-- The same for a setting without a default. -/
theorem map_wordOfValue?_valueOfWord {n : Nat} (h : n < Text.wordLimit) :
    (wordOfValue? (valueOfWord n)).map some = some (some n) := by
  rw [wordOfValue?_valueOfWord h, Option.map_some]

theorem selectionOfValue?_valueOfWords {ns : List Nat} (h : ∀ n ∈ ns, n < Text.wordLimit) :
    selectionOfValue? (valueOfWords ns) = some (.only ns) := by
  have hread : (ns.map valueOfWord).mapM wordOfValue? = some ns := by
    induction ns with
    | nil => rfl
    | cons n ns ih =>
      obtain ⟨hfirst, hlater⟩ := List.forall_mem_cons.mp h
      rw [List.map_cons, List.mapM_cons, wordOfValue?_valueOfWord hfirst, ih hlater]
      rfl
  rw [valueOfWords, selectionOfValue?, hread]
  rfl

/-- A reader that takes only values with no unreadable number in them. -/
def TakesReadable {α : Type} (read : Value → Option α) : Prop :=
  ∀ value, ∀ a ∈ read value, value.isReadable = true

theorem takesReadable_wordOfValue? : TakesReadable wordOfValue? := by
  intro value n h
  rw [wordOfValue?.eq_def] at h
  split at h
  · rfl
  · cases h

theorem takesReadable_textOfValue? : TakesReadable textOfValue? := by
  intro value text h
  rw [textOfValue?.eq_def] at h
  split at h
  · rfl
  · cases h

/-- A list of values that are all taken. -/
theorem isReadable_array_of_mapM {α : Type} {read : Value → Option α} (hread : TakesReadable read)
    {items : List Value} {results : List α} (h : items.mapM read = some results) :
    (Value.array items).isReadable = true := by
  rw [Value.isReadable_array, List.all_eq_true]
  induction items generalizing results with
  | nil => exact nofun
  | cons item items ih =>
    rw [List.mapM_cons] at h
    obtain ⟨first, hfirst, h⟩ := Option.bind_eq_some_iff.mp h
    obtain ⟨later, hlater, -⟩ := Option.bind_eq_some_iff.mp h
    exact List.forall_mem_cons.mpr ⟨hread item first hfirst, ih hlater⟩

theorem takesReadable_textsOfValue? : TakesReadable textsOfValue? := by
  intro value texts h
  rw [textsOfValue?.eq_def] at h
  split at h
  · exact isReadable_array_of_mapM takesReadable_textOfValue? h
  · cases h

theorem takesReadable_selectionOfValue? : TakesReadable selectionOfValue? := by
  intro value selection h
  rw [selectionOfValue?.eq_def] at h
  split at h
  · rfl
  · obtain ⟨indices, hindices, -⟩ := Option.map_eq_some_iff.mp h
    exact isReadable_array_of_mapM takesReadable_wordOfValue? hindices
  · cases h

theorem TakesReadable.map {α β : Type} {read : Value → Option α} (hread : TakesReadable read)
    (f : α → β) : TakesReadable fun value => (read value).map f := by
  intro value b h
  obtain ⟨a, ha, -⟩ := Option.map_eq_some_iff.mp h
  exact hread value a ha

/-! ### Single settings -/

section Setting

variable {α β : Type} {old new : Table} {key : String} {read : Value → Option α} {default a : α}

/-- What is found under the key of a setting has been read. -/
theorem isReadable_of_settingOf? (hread : TakesReadable read)
    (h : settingOf? old key read default = some a) : ∀ value ∈ old.lookup key,
      value.isReadable = true := by
  intro value hvalue
  rw [settingOf?, hvalue] at h
  exact hread value a h

theorem settingOf?_congr (h : new.lookup key = old.lookup key) :
    settingOf? new key read default = settingOf? old key read default := by
  rw [settingOf?, settingOf?, h]

/-- **A setting that may have been given a value** is that value, or else as before. -/
theorem settingOf?_given {given : Option β} {write : β → Value} {f : β → α}
    (hold : settingOf? old key read default = some a)
    (hnew : new.lookup key = (given.map write).or (old.lookup key))
    (hread : ∀ b ∈ given, read (write b) = some (f b)) :
    settingOf? new key read default = some ((given.map f).getD a) := by
  cases given with
  | none =>
    rw [settingOf?_congr (show new.lookup key = old.lookup key from hnew)]
    exact hold
  | some b =>
    rw [settingOf?, hnew]
    exact hread b rfl

end Setting

/-! ### Tables of settings -/

section Tables

variable {table : Table}

theorem InputSettings.ofTable?_eq_some_iff {s : InputSettings} :
    InputSettings.ofTable? table = some s ↔
      settingOf? table "channels" wordOfValue? 8 = some s.channels ∧
      settingOf? table "unitsize" (fun v => (wordOfValue? v).map some) none = some s.unitSize ∧
      settingOf? table "samplerate" (fun v => (wordOfValue? v).map some) none
        = some s.sampleRate ∧
      settingOf? table "enabled" selectionOfValue? (.all true) = some s.enabled ∧
      settingOf? table "names" textsOfValue? [] = some s.names ∧
      settingOf? table "trigger_at" (fun v => (wordOfValue? v).map some) none
        = some s.triggerAt := by
  simp only [InputSettings.ofTable?, Option.bind_eq_bind, Option.bind_eq_some_iff,
    Option.pure_def, Option.some.injEq]
  constructor
  · rintro ⟨channels, hchannels, unitSize, hunitSize, sampleRate, hsampleRate, enabled, henabled,
      names, hnames, triggerAt, htriggerAt, rfl⟩
    exact ⟨hchannels, hunitSize, hsampleRate, henabled, hnames, htriggerAt⟩
  · rintro ⟨hchannels, hunitSize, hsampleRate, henabled, hnames, htriggerAt⟩
    exact ⟨_, hchannels, _, hunitSize, _, hsampleRate, _, henabled, _, hnames, _, htriggerAt, rfl⟩

theorem OutputSettings.ofTable?_eq_some_iff {s : OutputSettings} :
    OutputSettings.ofTable? table = some s ↔
      settingOf? table "format" textOfValue? "hex" = some s.format ∧
      settingOf? table "width" (fun v => (wordOfValue? v).map some) none = some s.width := by
  simp only [OutputSettings.ofTable?, Option.bind_eq_bind, Option.bind_eq_some_iff,
    Option.pure_def, Option.some.injEq]
  constructor
  · rintro ⟨format, hformat, width, hwidth, rfl⟩
    exact ⟨hformat, hwidth⟩
  · rintro ⟨hformat, hwidth⟩
    exact ⟨_, hformat, _, hwidth, rfl⟩

theorem InputSettings.isReadable_of_ofTable? {s : InputSettings}
    (h : InputSettings.ofTable? table = some s) :
    ∀ key ∈ InputSettings.keys, ∀ value ∈ table.lookup key, value.isReadable = true := by
  obtain ⟨hchannels, hunitSize, hsampleRate, henabled, hnames, htriggerAt⟩ :=
    InputSettings.ofTable?_eq_some_iff.mp h
  have hword := takesReadable_wordOfValue?.map some
  simp only [InputSettings.keys, List.forall_mem_cons]
  exact ⟨isReadable_of_settingOf? takesReadable_wordOfValue? hchannels,
    isReadable_of_settingOf? hword hunitSize, isReadable_of_settingOf? hword hsampleRate,
    isReadable_of_settingOf? takesReadable_selectionOfValue? henabled,
    isReadable_of_settingOf? takesReadable_textsOfValue? hnames,
    isReadable_of_settingOf? hword htriggerAt, nofun⟩

theorem OutputSettings.isReadable_of_ofTable? {s : OutputSettings}
    (h : OutputSettings.ofTable? table = some s) :
    ∀ key ∈ OutputSettings.keys, ∀ value ∈ table.lookup key, value.isReadable = true := by
  obtain ⟨hformat, hwidth⟩ := OutputSettings.ofTable?_eq_some_iff.mp h
  simp only [OutputSettings.keys, List.forall_mem_cons]
  exact ⟨isReadable_of_settingOf? takesReadable_textOfValue? hformat,
    isReadable_of_settingOf? (takesReadable_wordOfValue?.map some) hwidth, nofun⟩

end Tables

/-! ### Editing -/

/-- The entries that a table of settings has by key, in whatever form it is given. -/
def entriesOf? (keys : List String) : Option Value → Option Table
  | none => some []
  | some (.table entries) => some entries
  | some (.array items) => if keys.length ≤ items.length then some (keys.zip items) else none
  | some (.moment _) => some []
  | some _ => none

/-- A table of settings, before and after some of its keys were **given** values: those have them,
and all others are as before. -/
def EditsTable (keys : List String) (given : String → Option Value) (before after : Option Value) :
    Prop :=
  ∃ old new, entriesOf? keys before = some old ∧ entriesOf? keys after = some new ∧
    ∀ key, new.lookup key = (given key).or (old.lookup key)

section Editing

variable {keys : List String} {given : String → Option Value} {before after : Option Value}
  {old new : Table}

theorem settingsTable?_eq_some_iff :
    settingsTable? keys before = some old ↔
      entriesOf? keys before = some old ∧
        ∀ entries, before = some (.table entries) → (Value.table entries).isReadable = true := by
  rw [settingsTable?.eq_def, entriesOf?.eq_def]
  split <;> simp_all [and_comm]

/-- The keys of an array of settings are those of the settings. -/
theorem mem_keys_of_entriesOf? (h : entriesOf? keys before = some old)
    (htable : ∀ entries, before ≠ some (.table entries)) : ∀ entry ∈ old, entry.1 ∈ keys := by
  rw [entriesOf?.eq_def] at h
  split at h
  · obtain rfl := Option.some.inj h
    exact nofun
  · exact absurd rfl (htable _)
  · split at h
    · obtain rfl := Option.some.inj h
      exact fun entry hentry => (List.of_mem_zip hentry).1
    · cases h
  · obtain rfl := Option.some.inj h
    exact nofun
  · cases h

/-- **A table of settings that was edited can be read**, if the settings in it can. What it holds
beside them is as it was in the table before. -/
theorem settingsTable?_of_edits (hold : settingsTable? keys before = some old)
    (hnew : entriesOf? keys after = some new)
    (hlookup : ∀ key, new.lookup key = (given key).or (old.lookup key))
    (hgiven : ∀ key ∉ keys, given key = none)
    (hdistinct : ∀ value ∈ after, value.Distinct)
    (hread : ∀ key ∈ keys, ∀ value ∈ new.lookup key, value.isReadable = true) :
    settingsTable? keys after = some new := by
  refine settingsTable?_eq_some_iff.mpr ⟨hnew, ?_⟩
  rintro entries rfl
  obtain rfl := Option.some.inj hnew
  obtain ⟨hentries, hreadable⟩ := settingsTable?_eq_some_iff.mp hold
  rw [Value.isReadable_table, List.all_eq_true]
  intro entry hentry
  have hfound : List.lookup entry.1 entries = some entry.2 :=
    Toml.lookup_of_mem (Value.distinct_table_iff.mp (hdistinct _ rfl)).1 hentry
  by_cases hkey : entry.1 ∈ keys
  · exact hread entry.1 hkey entry.2 hfound
  · -- What is no setting has been there before, and only in a table.
    rw [hlookup, hgiven entry.1 hkey, Option.none_or] at hfound
    have hmem := Toml.mem_of_lookup hfound
    by_cases htable : ∃ entries, before = some (.table entries)
    · obtain ⟨entries, rfl⟩ := htable
      obtain rfl := Option.some.inj hentries
      have hall := hreadable _ rfl
      rw [Value.isReadable_table, List.all_eq_true] at hall
      exact hall _ hmem
    · have hnone : ∀ entries, before ≠ some (.table entries) := fun entries heq =>
        htable ⟨entries, heq⟩
      exact absurd (mem_keys_of_entriesOf? hentries hnone _ hmem) hkey

/-- Whether a table was edited shows at the keys that occur in it, before or after, or are given
values. -/
theorem lookup_edits_iff (hgiven : ∀ key ∉ keys, given key = none) :
    (∀ key, new.lookup key = (given key).or (old.lookup key)) ↔
      ∀ key ∈ keys ++ old.map Prod.fst ++ new.map Prod.fst,
        new.lookup key = (given key).or (old.lookup key) := by
  refine ⟨fun h key _ => h key, fun h key => ?_⟩
  by_cases hkey : key ∈ keys ++ old.map Prod.fst ++ new.map Prod.fst
  · exact h key hkey
  · simp only [List.mem_append, not_or] at hkey
    obtain ⟨⟨hkeys, hold⟩, hnew⟩ := hkey
    rw [hgiven key hkeys, Toml.lookup_eq_none_iff.mpr hold, Toml.lookup_eq_none_iff.mpr hnew]
    rfl

/-- Edits can be checked. -/
def EditsTable.decidable (hgiven : ∀ key ∉ keys, given key = none) :
    Decidable (EditsTable keys given before after) :=
  decidable_of_iff
    (∃ old ∈ entriesOf? keys before, ∃ new ∈ entriesOf? keys after,
      ∀ key ∈ keys ++ old.map Prod.fst ++ new.map Prod.fst,
        new.lookup key = (given key).or (old.lookup key)) <| by
    simp only [EditsTable, lookup_edits_iff hgiven, Option.mem_def, exists_and_left]

end Editing

/-! ### Documents -/

namespace Settings

variable {table : Table}

/-- The document that a path stands for, given what it leads to. A file that is not there counts as
an empty document. -/
def document? (path : String) (found : Found) : Option Table := do
  let extension ← Path.extension? path
  guard (extension = "toml")
  match found with
  | .absent => return []
  | .file content => Toml.parseBytes? content
  | .directory | .blocked => none

theorem load?_eq_bind (path : String) (found : Found) :
    load? path found = (document? path found).bind ofTable? := by
  rw [load?.eq_def, document?.eq_def]
  cases Path.extension? path with
  | none => rfl
  | some extension =>
    simp only [guard, Option.bind_eq_bind, Option.bind_some]
    split
    · cases found with
      | absent => exact ofTable?_nil.symm
      | file content | directory | blocked => rfl
    · rfl

/-- **In no table of a settings file does a key occur twice.** -/
theorem distinct_of_document? {path : String} {found : Found}
    (h : document? path found = some table) : (Value.table table).Distinct := by
  obtain ⟨extension, -, h⟩ := Option.bind_eq_some_iff.mp h
  obtain ⟨-, -, h⟩ := Option.bind_eq_some_iff.mp h
  cases found with
  | absent =>
    obtain rfl := Option.some.inj h
    exact .table List.nodup_nil nofun
  | file content => exact Toml.distinct_of_parseBytes? h
  | directory | blocked => cases h

/-- **The settings that a document stands for.** -/
theorem ofTable?_eq_some_iff {s : Settings} :
    ofTable? table = some s ↔
      (∀ entry ∈ table, entry.1 ∈ keys ∨ entry.2.isReadable = true) ∧
      (∃ input, settingsTable? InputSettings.keys (table.lookup "input") = some input ∧
        InputSettings.ofTable? input = some s.input) ∧
      (∃ output, settingsTable? OutputSettings.keys (table.lookup "output") = some output ∧
        OutputSettings.ofTable? output = some s.output) ∧
      ∃ stream, settingsTable? StreamSettings.keys (table.lookup "stream") = some stream ∧
        StreamSettings.ofTable? stream = some s.stream := by
  simp only [ofTable?, Option.bind_eq_bind, Option.bind_eq_some_iff, Option.pure_def,
    Option.some.injEq, Option.guard_eq_some', List.all_eq_true, Bool.or_eq_true,
    List.contains_iff_mem]
  constructor
  · rintro ⟨-, hreadable, input, hinput, i, hi, output, houtput, o, ho, stream, hstream, t, ht, rfl⟩
    exact ⟨hreadable, ⟨input, hinput, hi⟩, ⟨output, houtput, ho⟩, stream, hstream, ht⟩
  · rintro ⟨hreadable, ⟨input, hinput, hi⟩, ⟨output, houtput, ho⟩, stream, hstream, ht⟩
    exact ⟨(), hreadable, input, hinput, _, hi, output, houtput, _, ho, stream, hstream, _, ht, rfl⟩

end Settings

end CaptureReport
