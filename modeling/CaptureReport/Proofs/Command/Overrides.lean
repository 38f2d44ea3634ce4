import CaptureReport.Proofs.Command.Redirection
import CaptureReport.Proofs.Settings
import CaptureReport.Proofs.Settings.File

/-!
# Options in place of settings

Seven options of a command line replace settings of the file. They could as well be written into the
file: a command line that is told of the edited file, and gives none of the seven, comes to the same
settings, and with the same capture and the same destination to the same outcome.

The settings are put together before anything is derived from them, so what follows from a setting
follows from the value that an option gives it: the width of a sample that is implied by the number
of channels, their names, and the counts in the header.

## Main results

* `Options.ofTable?_of_edits`: the settings of an edited file.
* `Options.execute_filed`: command lines with the same settings, capture and destination.
* `options_as_settings`: both, and what follows for the settings and the header.
-/

namespace CaptureReport.Command

open Toml (Value Table)

namespace Options

/-! ### Editing a settings file -/

/-- The values that options give to the settings of the capture, by key. -/
def inputValue? (o : Options) : String → Option Value
  | "channels" => o.channels.map valueOfWord
  | "unitsize" => o.unitSize.map valueOfWord
  | "samplerate" => o.sampleRate.map valueOfWord
  | "enabled" => o.enable.map valueOfWords
  | "trigger_at" => o.triggerAt.map valueOfWord
  | _ => none

/-- The values that options give to the settings of the report, by key. -/
def outputValue? (o : Options) : String → Option Value
  | "format" => o.format.map .string
  | "width" => o.width.map valueOfWord
  | _ => none

/-- A document is **edited** by options if the settings that they give have been given their values,
and all else is as before. -/
structure Edits (o : Options) (before after : Table) : Prop where
  input : EditsTable InputSettings.keys o.inputValue? (before.lookup "input") (after.lookup "input")
  output : EditsTable OutputSettings.keys o.outputValue? (before.lookup "output")
    (after.lookup "output")
  others : ∀ key, key ≠ "input" → key ≠ "output" → after.lookup key = before.lookup key

/-- The document that a command line takes its settings from: none is an empty one. -/
def document? (o : Options) (folder : Folder) : Option Table :=
  match o.config with
  | none => some []
  | some path => Settings.document? path (folder.look path)

/-- The command line that leaves its settings to a file. -/
def filed (o : Options) (path : String) : Options where
  input := o.input
  config := some path
  output := o.output
  listFormats := o.listFormats
  verbosity := o.verbosity

variable {o : Options} {before after old new : Table}

theorem inputValue?_of_notMem {key : String} (h : key ∉ InputSettings.keys) :
    o.inputValue? key = none := by
  simp only [InputSettings.keys, List.mem_cons, List.not_mem_nil, or_false, not_or] at h
  rw [inputValue?.eq_def]
  split <;> simp_all

theorem outputValue?_of_notMem {key : String} (h : key ∉ OutputSettings.keys) :
    o.outputValue? key = none := by
  simp only [OutputSettings.keys, List.mem_cons, List.not_mem_nil, or_false, not_or] at h
  rw [outputValue?.eq_def]
  split <;> simp_all

/-- Whether a document was edited shows at the keys that occur in it. -/
theorem edits_iff :
    o.Edits before after ↔
      EditsTable InputSettings.keys o.inputValue? (before.lookup "input") (after.lookup "input") ∧
      EditsTable OutputSettings.keys o.outputValue? (before.lookup "output")
        (after.lookup "output") ∧
      ∀ key ∈ before.map Prod.fst ++ after.map Prod.fst,
        key ≠ "input" → key ≠ "output" → after.lookup key = before.lookup key := by
  refine ⟨fun h => ⟨h.input, h.output, fun key _ => h.others key⟩, fun h => ⟨h.1, h.2.1, ?_⟩⟩
  intro key hinput houtput
  by_cases hkey : key ∈ before.map Prod.fst ++ after.map Prod.fst
  · exact h.2.2 key hkey hinput houtput
  · obtain ⟨hbefore, hafter⟩ := not_or.mp (mt List.mem_append.mpr hkey)
    rw [Toml.lookup_eq_none_iff.mpr hbefore, Toml.lookup_eq_none_iff.mpr hafter]

instance {old new : Option Value} :
    Decidable (EditsTable InputSettings.keys o.inputValue? old new) :=
  EditsTable.decidable fun _ => inputValue?_of_notMem

instance {old new : Option Value} :
    Decidable (EditsTable OutputSettings.keys o.outputValue? old new) :=
  EditsTable.decidable fun _ => outputValue?_of_notMem

instance : Decidable (o.Edits before after) :=
  decidable_of_iff _ edits_iff.symm

theorem getD_map_some {α : Type} (given old : Option α) :
    (given.map some).getD old = given.or old := by
  cases given <;> rfl

/-- **The settings of the capture**, edited. -/
theorem inputOfTable?_of_edits (hfits : o.Fits)
    (hlookup : ∀ key, new.lookup key = (o.inputValue? key).or (old.lookup key)) {s : Settings}
    (h : InputSettings.ofTable? old = some s.input) :
    InputSettings.ofTable? new = some (o.apply s).input := by
  obtain ⟨hchannels, hunitSize, hsampleRate, henabled, hnames, htriggerAt⟩ :=
    InputSettings.ofTable?_eq_some_iff.mp h
  have hchannels' := settingOf?_given (f := id) hchannels (hlookup "channels") fun n hn =>
    wordOfValue?_valueOfWord (hfits.channels n hn)
  have hunitSize' := settingOf?_given hunitSize (hlookup "unitsize") fun n hn =>
    map_wordOfValue?_valueOfWord (hfits.unitSize n hn)
  have hsampleRate' := settingOf?_given hsampleRate (hlookup "samplerate") fun n hn =>
    map_wordOfValue?_valueOfWord (hfits.sampleRate n hn)
  have henabled' := settingOf?_given henabled (hlookup "enabled") fun ns hns =>
    selectionOfValue?_valueOfWords (hfits.enable ns hns)
  have hnames' := (settingOf?_congr (hlookup "names")).trans hnames
  have htriggerAt' := settingOf?_given htriggerAt (hlookup "trigger_at") fun n hn =>
    map_wordOfValue?_valueOfWord (hfits.triggerAt n hn)
  rw [Option.map_id_apply] at hchannels'
  rw [getD_map_some] at hunitSize' hsampleRate' htriggerAt'
  exact InputSettings.ofTable?_eq_some_iff.mpr
    ⟨hchannels', hunitSize', hsampleRate', henabled', hnames', htriggerAt'⟩

/-- **The settings of the report**, edited. -/
theorem outputOfTable?_of_edits (hfits : o.Fits)
    (hlookup : ∀ key, new.lookup key = (o.outputValue? key).or (old.lookup key)) {s : Settings}
    (h : OutputSettings.ofTable? old = some s.output) :
    OutputSettings.ofTable? new = some (o.apply s).output := by
  obtain ⟨hformat, hwidth⟩ := OutputSettings.ofTable?_eq_some_iff.mp h
  have hformat' := settingOf?_given (f := id) hformat (hlookup "format") fun _ _ => rfl
  have hwidth' := settingOf?_given hwidth (hlookup "width") fun n hn =>
    map_wordOfValue?_valueOfWord (hfits.width n hn)
  rw [Option.map_id_apply] at hformat'
  rw [getD_map_some] at hwidth'
  exact OutputSettings.ofTable?_eq_some_iff.mpr ⟨hformat', hwidth'⟩

/-- **The settings of an edited document** are those of the document with the options over them. -/
theorem ofTable?_of_edits (hfits : o.Fits) (hedits : o.Edits before after)
    (hdistinct : (Value.table after).Distinct) {s : Settings}
    (h : Settings.ofTable? before = some s) : Settings.ofTable? after = some (o.apply s) := by
  obtain ⟨hreadable, ⟨oldInput, hinput, hi⟩, ⟨oldOutput, houtput, ho⟩, stream, hstream, ht⟩ :=
    Settings.ofTable?_eq_some_iff.mp h
  obtain ⟨_, newInput, holdInput, hnewInput, hinputLookup⟩ := hedits.input
  obtain ⟨_, newOutput, holdOutput, hnewOutput, houtputLookup⟩ := hedits.output
  obtain rfl := Option.some.inj (holdInput.symm.trans (settingsTable?_eq_some_iff.mp hinput).1)
  obtain rfl := Option.some.inj (holdOutput.symm.trans (settingsTable?_eq_some_iff.mp houtput).1)
  have hi' := inputOfTable?_of_edits hfits hinputLookup hi
  have ho' := outputOfTable?_of_edits hfits houtputLookup ho
  obtain ⟨hkeys, hvalues⟩ := Value.distinct_table_iff.mp hdistinct
  have hsection {key : String} : ∀ value ∈ after.lookup key, value.Distinct := fun value hvalue =>
    hvalues (key, value) (Toml.mem_of_lookup hvalue)
  have hinput' := settingsTable?_of_edits hinput hnewInput hinputLookup
    (fun _ => inputValue?_of_notMem) hsection (InputSettings.isReadable_of_ofTable? hi')
  have houtput' := settingsTable?_of_edits houtput hnewOutput houtputLookup
    (fun _ => outputValue?_of_notMem) hsection (OutputSettings.isReadable_of_ofTable? ho')
  refine Settings.ofTable?_eq_some_iff.mpr ⟨fun entry hentry => ?_, ⟨newInput, hinput', hi'⟩,
    ⟨newOutput, houtput', ho'⟩, stream, ?_, ht⟩
  · -- Beside the tables of settings, the document holds what it held before.
    by_cases hkey : entry.1 ∈ Settings.keys
    · exact .inl hkey
    · have hne : entry.1 ≠ "input" ∧ entry.1 ≠ "output" := by
        simp only [Settings.keys, List.mem_cons, not_or] at hkey
        exact ⟨hkey.1, hkey.2.1⟩
      have hfound := Toml.lookup_of_mem hkeys hentry
      rw [hedits.others entry.1 hne.1 hne.2] at hfound
      exact hreadable _ (Toml.mem_of_lookup hfound)
  · rw [hedits.others "stream" (by decide) (by decide)]
    exact hstream

/-! ### Settings of command lines -/

variable {folder folder' : Folder} {path : String} {loaded : Settings}

/-- What a command line that can load its settings makes of them. -/
theorem settings?_of_document? (hdocument : o.document? folder = some before)
    (hloaded : Settings.ofTable? before = some loaded) :
    o.settings? folder = .ok (o.apply loaded) := by
  rw [document?] at hdocument
  rw [settings?]
  cases hconfig : o.config with
  | none =>
    rw [hconfig] at hdocument
    obtain rfl := Option.some.inj hdocument
    obtain rfl := Option.some.inj hloaded
    rfl
  | some path =>
    rw [hconfig] at hdocument
    replace hdocument : Settings.document? path (folder.look path) = some before := hdocument
    have hload : Settings.load? path (folder.look path) = some loaded := by
      rw [Settings.load?_eq_bind, hdocument, Option.bind_some, hloaded]
    simp only [hload]

/-- The settings of an edited file, without options over them. -/
theorem settings?_filed (hfits : o.Fits) (hloaded : Settings.ofTable? before = some loaded)
    (hafter : Settings.document? path (folder.look path) = some after)
    (hedits : o.Edits before after) :
    (o.filed path).settings? folder = .ok (o.apply loaded) := by
  have hsame : (o.filed path).apply (o.apply loaded) = o.apply loaded := rfl
  rw [← hsame]
  exact settings?_of_document? hafter
    (ofTable?_of_edits hfits hedits (Settings.distinct_of_document? hafter) hloaded)

/-! ### Two folders -/

section Folders

variable (hcapture : ∀ capture ∈ o.inputPath, folder'.look capture = folder.look capture)
  (hspot : ∀ capture ∈ o.inputPath, folder'.spot capture = folder.spot capture)
  (htarget : o.target? folder' = o.target? folder)

include hcapture in
theorem source_congr (stdin : List UInt8) : o.source stdin folder' = o.source stdin folder := by
  rw [source, source]
  cases hinput : o.inputPath with
  | none => rfl
  | some capture => exact sourceOf_congr (hcapture capture hinput)

include htarget in
theorem destination_congr : o.destination folder' = o.destination folder := by
  rw [destination, destination, htarget]

include hcapture htarget

include hspot in
theorem overwritesCapture_congr : o.overwritesCapture folder' = o.overwritesCapture folder := by
  rw [overwritesCapture, overwritesCapture, htarget]
  cases hinput : o.inputPath with
  | none => rfl
  | some capture =>
    rw [Option.any_some, Option.any_some, canOpen_congr (hcapture capture hinput),
      hspot capture hinput]

/-- The files are opened in the one folder as in the other. -/
theorem openFiles_congr :
    o.openFiles folder' =
      (o.openFiles folder).map fun files => (files.1, files.1.put folder' []) := by
  have hsame {capture : String} (hinput : o.inputPath = some capture) :
      canOpen folder' capture = canOpen folder capture :=
    canOpen_congr (hcapture capture hinput)
  rcases o.canOpen_cases folder with hopen | ⟨capture, hinput, hclosed⟩
  · have hopen' : ∀ capture ∈ o.inputPath, canOpen folder' capture = true := fun capture hinput =>
      (hsame hinput).trans (hopen capture hinput)
    rw [openFiles_of_canOpen hopen, openFiles_of_canOpen hopen']
    cases houtput : o.output with
    | none => rfl
    | some path =>
      have hspot : folder'.target? path = folder.target? path := by
        rw [target?, target?, houtput] at htarget
        exact htarget
      simp only [hspot]
      cases folder.target? path <;> rfl
  · have hclosed' := (hsame hinput).trans hclosed
    rw [openFiles_of_not_canOpen hinput hclosed, openFiles_of_not_canOpen hinput hclosed']
    rfl

/-- The steps up to the run, with the settings in the file and with options over those of the
file. -/
theorem prepare_filed (hsettings : (o.filed path).settings? folder' = o.settings? folder) :
    (o.filed path).prepare folder' = (o.prepare folder).map fun prepared =>
      (prepared.1, prepared.2.1, prepared.2.2.1, prepared.2.2.1.put folder' []) :=
  prepare_of_openFiles hsettings (openFiles_congr hcapture htarget)

end Folders

end Options

/-! ### Outcomes in two folders -/

/-- Two outcomes, each in a folder of its own, **agree** if they tell the same and have either both
left their folders as they were, or put the same report into them. -/
structure Outcome.Agree (d : Destination) (folder folder' : Folder) (a b : Outcome) : Prop where
  exit : b.exit = a.exit
  stdout : b.stdout = a.stdout
  problem : b.problem = a.problem
  notices : b.notices = a.notices
  files : (a.folder = folder ∧ b.folder = folder') ∨
    ∃ report, a.folder = d.put folder report ∧ b.folder = d.put folder' report

namespace Options

variable {o : Options} {folder folder' : Folder} {path : String}

theorem agree_outcomeOf (o : Options) (settings : Settings) (run : Stream.Run) (d : Destination)
    (folder folder' : Folder) :
    Outcome.Agree d folder folder' (o.outcomeOf settings run d (d.put folder []))
      (o.outcomeOf settings run d (d.put folder' [])) where
  exit := by rw [exit_outcomeOf, exit_outcomeOf]
  stdout := by rw [stdout_outcomeOf, stdout_outcomeOf]
  problem := by rw [problem_outcomeOf, problem_outcomeOf]
  notices := by
    rw [outcomeOf, outcomeOf]
    cases run.result <;> cases d <;> rfl
  files := .inr ⟨_, folder_outcomeOf .., folder_outcomeOf ..⟩

/-- **Command lines with the same settings**, capture and destination come to the same outcome,
however they have come to their settings. -/
theorem execute_filed (hsettings : (o.filed path).settings? folder' = o.settings? folder)
    (hcapture : ∀ capture ∈ o.inputPath, folder'.look capture = folder.look capture)
    (hspot : ∀ capture ∈ o.inputPath, folder'.spot capture = folder.spot capture)
    (htarget : o.target? folder' = o.target? folder) (stdin : List UInt8) :
    Outcome.Agree (o.destination folder) folder folder' (o.execute stdin folder)
      ((o.filed path).execute stdin folder') := by
  have hprepare := prepare_filed hcapture htarget hsettings
  rcases o.execute_cases stdin folder with ⟨hlist, heq⟩ | ⟨hlist, problem, hfails, heq⟩ |
    ⟨hlist, settings, device, hsteps, heq⟩
  · have hlist' : (o.filed path).listFormats = true := hlist
    rw [heq, execute, if_pos hlist']
    exact ⟨rfl, rfl, rfl, rfl, .inl ⟨rfl, rfl⟩⟩
  · have hlist' : (o.filed path).listFormats = false := hlist
    rw [hfails] at hprepare
    rw [heq, execute, hlist', hprepare]
    exact ⟨rfl, rfl, rfl, rfl, .inl ⟨rfl, rfl⟩⟩
  · have hlist' : (o.filed path).listFormats = false := hlist
    rw [hsteps] at hprepare
    obtain ⟨-, -, hfiles⟩ := prepare_eq_ok_iff.mp hsteps
    obtain ⟨hopen, -⟩ := openFiles_eq_ok_iff.mp hfiles
    have hopen' : ∀ capture ∈ o.inputPath, canOpen folder' capture = true :=
      fun capture hinput => (canOpen_congr (hcapture capture hinput)).trans (hopen capture hinput)
    -- Creating the destination empties the capture in both folders or in neither.
    have hsource : o.source stdin ((o.destination folder).put folder' []) =
        o.source stdin ((o.destination folder).put folder []) := by
      have hput := source_put hopen' stdin
      rw [destination_congr htarget, overwritesCapture_congr hcapture hspot htarget,
        source_congr hcapture] at hput
      exact hput.trans (source_put hopen stdin).symm
    have heq' : (o.filed path).execute stdin folder' =
        o.outcomeOf settings
          (Stream.run settings device (o.source stdin ((o.destination folder).put folder [])) {})
          (o.destination folder) ((o.destination folder).put folder' []) := by
      rw [execute, hlist', hprepare, ← hsource]
      rfl
    rw [heq, heq']
    exact agree_outcomeOf ..

end Options

/-- **Options replace settings.** A command line whose settings file has been edited instead comes
to the same settings, and with the same capture at the same spot and the same destination to the
same outcome. An option that is not given leaves the setting of the file or its default, and what no
option is for comes from the file. An implied width, the names of the channels and the counts in the
header follow the number of channels that is in force. -/
theorem options_as_settings {args args' : List String} {o : Options} {path : String}
    {folder folder' : Folder} {before after : Table} {loaded : Settings}
    (hargs : parse args = .ok o) (hargs' : parse args' = .ok (o.filed path))
    (hbefore : o.document? folder = some before) (hloaded : Settings.ofTable? before = some loaded)
    (hafter : Settings.document? path (folder'.look path) = some after)
    (hedits : o.Edits before after)
    (hcapture : ∀ capture ∈ o.inputPath, folder'.look capture = folder.look capture)
    (hspot : ∀ capture ∈ o.inputPath, folder'.spot capture = folder.spot capture)
    (htarget : o.target? folder' = o.target? folder) (stdin : List UInt8) :
    let channels := o.channels.getD loaded.input.channels
    let enabled := (o.enable.map Selection.only).getD loaded.input.enabled
    let rate := o.sampleRate.or loaded.input.sampleRate
    let settings : Settings :=
      { input :=
          { channels, enabled, sampleRate := rate
            unitSize := o.unitSize.or loaded.input.unitSize
            triggerAt := o.triggerAt.or loaded.input.triggerAt
            names := loaded.input.names }
        output :=
          { format := o.format.getD loaded.output.format
            width := o.width.or loaded.output.width }
        stream := loaded.stream }
    Outcome.Agree (o.destination folder) folder folder' (execute args stdin folder)
        (execute args' stdin folder') ∧
      o.settings? folder = .ok settings ∧ (o.filed path).settings? folder' = .ok settings ∧
      (o.unitSize = none → loaded.input.unitSize = none →
        settings.input.sampleSize = max ((channels + 7) / 8) 1) ∧
      ∃ device, deviceOf settings.input = .ok device ∧
        device.channels.map Channel.name =
          (List.range channels).map (fun index => loaded.input.names[index]?.getD s!"D{index}") ∧
        Report.headerLines device = Report.banner :: (rate.map <|
          InputSettings.acquisitionLine ((List.range channels).filter enabled.includes).length
            channels).toList := by
  intro channels enabled rate settings
  have hsettings : o.settings? folder = .ok settings :=
    Options.settings?_of_document? hbefore hloaded
  have hfiled : (o.filed path).settings? folder' = .ok settings :=
    Options.settings?_filed (fits_of_parse hargs) hloaded hafter hedits
  refine ⟨?_, hsettings, hfiled, ?_, ?_⟩
  · rw [execute_of_parse hargs, execute_of_parse hargs']
    exact Options.execute_filed (hfiled.trans hsettings.symm) hcapture hspot htarget stdin
  · intro hoption hfile
    have hsize : settings.input.unitSize = none := by
      show o.unitSize.or loaded.input.unitSize = none
      rw [hoption, hfile, Option.none_or]
    rw [InputSettings.sampleSize, hsize]
    rfl
  · obtain ⟨hok, hdevice⟩ := settings.input.select_device settings.input.enabled
    refine ⟨settings.input.switched enabled, ?_, ?_, settings.input.headerLines_switched enabled⟩
    · rw [deviceOf, hok, hdevice]
    · rw [InputSettings.switched, Device.channels_withChannels, List.map_map]
      rfl

/-- A settings file that is edited in place of three options: nine channels for four, the first and
the last of them selected, and lines of eight samples. The new file is laid out another way. -/
theorem options_as_settings_nine :
    let before : Table :=
      [("input", .table [("channels", .integer 4), ("samplerate", .integer 1000),
        ("enabled", .array [.integer 0]), ("names", .array [.string "A", .string "B"])]),
       ("output", .table [("width", .integer 16)]),
       ("stream", .table [("queue_depth", .integer 2)])]
    let after : Table :=
      [("stream", .table [("queue_depth", .integer 2)]),
       ("output", .table [("width", .integer 8)]),
       ("input", .table [("samplerate", .integer 1000),
        ("names", .array [.string "A", .string "B"]),
        ("enabled", .array [.integer 0, .integer 8]), ("channels", .integer 9)])]
    let folder : Folder := .ofFiles
      [("cap.bin", List.replicate 32 255),
       ("conf.toml", Stream.Consumer.bytesOf <|
        "[input]\nchannels = 4\nsamplerate = 1000\nenabled = [0]\nnames = ['A', 'B']\n" ++
        "[output]\nwidth = 16\n[stream]\nqueue_depth = 2\n")]
    let folder' : Folder := folder.store (Path.spot "conf.toml") <| Stream.Consumer.bytesOf <|
      "stream.queue_depth = 2\noutput.width = 8\n" ++
      "[input]\nsamplerate = 1000\nnames = ['A', 'B']\nenabled = [0, 8]\nchannels = 9\n"
    let shared := ["cap.bin", "-c", "conf.toml", "-o", "out.txt"]
    let args := shared ++ ["--channels", "9", "--enable", "0,8", "-w", "8"]
    let o : Options :=
      { input := some "cap.bin", config := some "conf.toml", output := some "out.txt"
        channels := some 9, enable := some [0, 8], width := some 8 }
    let settings : Settings :=
      { input :=
          { channels := 9, sampleRate := some 1000, enabled := .only [0, 8], names := ["A", "B"] }
        output := { width := some 8 }
        stream := { queueDepth := 2 } }
    parse args = .ok o ∧ parse shared = .ok (o.filed "conf.toml") ∧
      o.document? folder = some before ∧
      Settings.document? "conf.toml" (folder'.look "conf.toml") = some after ∧
      o.Edits before after ∧
      Outcome.Agree (.file (Path.spot "out.txt")) folder folder' (execute args [] folder)
        (execute shared [] folder') ∧
      o.settings? folder = .ok settings ∧
      (o.filed "conf.toml").settings? folder' = .ok settings ∧
      settings.input.sampleSize = 2 ∧
      ∃ device, deviceOf settings.input = .ok device ∧
        device.channels.map Channel.name =
          ["A", "B", "D2", "D3", "D4", "D5", "D6", "D7", "D8"] ∧
        Report.headerLines device =
          ["logic-hex 0.1.0", "Acquisition with 2/9 channels at 1 kHz"] := by
  intro before after folder folder' shared args o settings
  let loaded : Settings :=
    { input :=
        { channels := 4, sampleRate := some 1000, enabled := .only [0], names := ["A", "B"] }
      output := { width := some 16 }
      stream := { queueDepth := 2 } }
  have hargs : parse args = .ok o := by decide +kernel
  have hargs' : parse shared = .ok (o.filed "conf.toml") := by decide +kernel
  have hbefore : o.document? folder = some before := by decide +kernel
  have hloaded : Settings.ofTable? before = some loaded := by decide +kernel
  have hafter : Settings.document? "conf.toml" (folder'.look "conf.toml") = some after := by
    decide +kernel
  have hedits : o.Edits before after := by decide +kernel
  have hcapture : ∀ capture ∈ o.inputPath, folder'.look capture = folder.look capture := by
    decide +kernel
  have htarget : o.target? folder' = o.target? folder := by decide +kernel
  obtain ⟨hagree, hsettings, hfiled, hsize, device, hdevice, hnames, hheader⟩ :=
    options_as_settings hargs hargs' hbefore hloaded hafter hedits hcapture (fun _ _ => rfl)
      htarget []
  have hdestination : o.destination folder = .file (Path.spot "out.txt") := by decide +kernel
  rw [hdestination] at hagree
  exact ⟨hargs, hargs', hbefore, hafter, hedits, hagree, hsettings, hfiled,
    (hsize rfl rfl).trans (by decide), device, hdevice, hnames.trans (by decide +kernel),
    hheader.trans (by decide +kernel)⟩

end CaptureReport.Command
