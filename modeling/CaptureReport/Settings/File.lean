import CaptureReport.Folder
import CaptureReport.Settings
import CaptureReport.Text.Decimal
import CaptureReport.Toml.Document

/-!
# Settings files

Settings can be kept in a TOML file with the tables `input`, `output` and `stream`. A setting that
the file leaves out keeps its default, a key that is no setting is passed over, and a value of the
wrong kind or out of range spoils the file. A table may also be given as an array of all its
settings in order, and a date in the place of a table has no settings in it. What an array holds
behind the settings is not looked at; anywhere else an unreadable number spoils the file.

The file has to carry the extension `toml`; one that carries it and is not there counts as empty.

## Main results

* `Settings.ofTable?_nil`: the empty document stands for the default settings.
-/

namespace CaptureReport

open Toml (Value Table)

/-! ### Single values -/

/-- A number that fits in a word. -/
def wordOfValue? : Value → Option Nat
  | .integer n => if 0 ≤ n ∧ n < Text.wordLimit then some n.toNat else none
  | _ => none

def textOfValue? : Value → Option String
  | .string text => some text
  | _ => none

def textsOfValue? : Value → Option (List String)
  | .array items => items.mapM textOfValue?
  | _ => none

/-- All channels or none, or the channels listed. -/
def selectionOfValue? : Value → Option Selection
  | .boolean state => some (.all state)
  | .array items => (items.mapM wordOfValue?).map .only
  | _ => none

/-- The setting of a key, or its default if the key is not there. -/
def settingOf? {α : Type} (table : Table) (key : String) (read : Value → Option α) (default : α) :
    Option α :=
  match table.lookup key with
  | none => some default
  | some value => read value

/-! ### Tables of settings -/

/-- The table of settings that a value stands for, given the keys in the order in which an array
lists them. -/
def settingsTable? (keys : List String) : Option Value → Option Table
  | none => some []
  | some (.table entries) => if (Value.table entries).isReadable then some entries else none
  | some (.array items) => if keys.length ≤ items.length then some (keys.zip items) else none
  | some (.moment _) => some []
  | some _ => none

def InputSettings.keys : List String :=
  ["channels", "unitsize", "samplerate", "enabled", "names", "trigger_at"]

def InputSettings.ofTable? (table : Table) : Option InputSettings := do
  let base : InputSettings := {}
  return {
    channels := ← settingOf? table "channels" wordOfValue? base.channels
    unitSize := ← settingOf? table "unitsize" (fun v => (wordOfValue? v).map some) base.unitSize
    sampleRate := ← settingOf? table "samplerate" (fun v => (wordOfValue? v).map some)
      base.sampleRate
    enabled := ← settingOf? table "enabled" selectionOfValue? base.enabled
    names := ← settingOf? table "names" textsOfValue? base.names
    triggerAt := ← settingOf? table "trigger_at" (fun v => (wordOfValue? v).map some)
      base.triggerAt }

def OutputSettings.keys : List String :=
  ["format", "width"]

def OutputSettings.ofTable? (table : Table) : Option OutputSettings := do
  let base : OutputSettings := {}
  return {
    format := ← settingOf? table "format" textOfValue? base.format
    width := ← settingOf? table "width" (fun v => (wordOfValue? v).map some) base.width }

def StreamSettings.keys : List String :=
  ["chunk_samples", "queue_depth"]

def StreamSettings.ofTable? (table : Table) : Option StreamSettings := do
  let base : StreamSettings := {}
  return {
    chunkSamples := ← settingOf? table "chunk_samples" wordOfValue? base.chunkSamples
    queueDepth := ← settingOf? table "queue_depth" wordOfValue? base.queueDepth }

namespace Settings

/-- The tables that settings come in. -/
def keys : List String :=
  ["input", "output", "stream"]

/-- The settings that a document stands for. -/
def ofTable? (table : Table) : Option Settings := do
  guard (table.all fun entry => keys.contains entry.1 || entry.2.isReadable)
  return {
    input := ← InputSettings.ofTable?
      (← settingsTable? InputSettings.keys (table.lookup "input"))
    output := ← OutputSettings.ofTable?
      (← settingsTable? OutputSettings.keys (table.lookup "output"))
    stream := ← StreamSettings.ofTable?
      (← settingsTable? StreamSettings.keys (table.lookup "stream")) }

/-- **A document without settings stands for the defaults.** -/
theorem ofTable?_nil : ofTable? [] = some {} := rfl

/-- The settings that a path stands for, given what it leads to. -/
def load? (path : String) (found : Found) : Option Settings := do
  let extension ← Path.extension? path
  guard (extension = "toml")
  match found with
  | .absent => return {}
  | .file content => ofTable? (← Toml.parseBytes? content)
  | .directory | .blocked => none

end Settings

end CaptureReport
