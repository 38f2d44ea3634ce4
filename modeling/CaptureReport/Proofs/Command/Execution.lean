import CaptureReport.Command.Execution
import CaptureReport.Proofs.Command.Arguments
import CaptureReport.Proofs.Folder
import CaptureReport.Proofs.Stream.Reports

/-!
# What a command line can come to

A command line that is carried out lists the formats, or fails in one of its steps, or comes to its
run. Which of the three it is does not depend on the capture. What a run leaves behind is put
together from what the command line asks for and what the stream has come to, and the only thing in
it that knows the destination is where the report is delivered.

## Main results

* `Options.prepare_eq_ok_iff`: the steps up to the run.
* `Options.execute_cases`: what comes of options.
* `Options.folder_execute`: a command line writes to its destination and nowhere else.
* `Options.execute_reports`: what a command line reports.
-/

namespace CaptureReport.Command

/-! ### Destinations -/

/-- The folder with a report at a destination. Creating the destination puts an empty one there. -/
def Destination.put (folder : Folder) (report : List UInt8) : Destination → Folder
  | .stdout => folder
  | .file spot => folder.store spot report

/-! ### Problems -/

/-- Whether a problem came up in the run, and not on the way to it. -/
def Problem.isOfRun : Problem → Bool
  | run _ => true
  | config _ | channels _ | openInput _ | createOutput _ => false

/-- Two steps fail with the problem of the first one that fails. -/
theorem bind_eq_error {α β : Type} {first : Except Problem α} {next : α → Except Problem β}
    {problem : Problem} (h : (first >>= next) = .error problem) :
    first = .error problem ∨ ∃ a, first = .ok a ∧ next a = .error problem := by
  cases first with
  | error found =>
    cases h
    exact .inl rfl
  | ok a => exact .inr ⟨a, rfl, h⟩

namespace Options

/-- The spot at which a command line creates a file for its report. -/
def target? (o : Options) (folder : Folder) : Option Spot :=
  o.output.bind folder.target?

/-- Where the report of a command line goes. -/
def destination (o : Options) (folder : Folder) : Destination :=
  match o.target? folder with
  | none => .stdout
  | some spot => .file spot

/-! ### Runs -/

/-- What a command line reads its capture from. -/
def source (o : Options) (stdin : List UInt8) (folder : Folder) : Stream.Source :=
  match o.inputPath with
  | none => .ofBytes stdin
  | some path => sourceOf folder path

/-- What a command line leaves behind once its run is over. -/
def outcomeOf (o : Options) (settings : Settings) (run : Stream.Run) (destination : Destination)
    (folder : Folder) : Outcome :=
  let started := Stream.Notice.started settings.input.channels settings.input.sampleSize
    settings.output.format
  let outcome : Outcome := match run.result with
    | .ok stats =>
      { exit := .success
        notices := o.shown (started :: run.notices ++ [.done stats.samples])
        folder }
    | .error failure =>
      { exit := .failure
        problem := some (.run failure)
        notices := o.shown (started :: run.notices)
        folder }
  outcome.deliver run.sink.received.toList destination

variable {o : Options} {stdin : List UInt8} {folder : Folder} {settings : Settings}
  {device : Device} {run : Stream.Run}

theorem report_eq (o : Options) (settings : Settings) (device : Device) (destination : Destination)
    (stdin : List UInt8) (folder : Folder) :
    o.report settings device destination stdin folder =
      o.outcomeOf settings (Stream.run settings device (o.source stdin folder) {}) destination
        folder :=
  rfl

theorem exit_outcomeOf (o : Options) (settings : Settings) (run : Stream.Run)
    (destination : Destination) (folder : Folder) :
    (o.outcomeOf settings run destination folder).exit =
      match run.result with
      | .ok _ => .success
      | .error _ => .failure := by
  rw [outcomeOf]
  cases run.result <;> cases destination <;> rfl

theorem problem_outcomeOf (o : Options) (settings : Settings) (run : Stream.Run)
    (destination : Destination) (folder : Folder) :
    (o.outcomeOf settings run destination folder).problem =
      match run.result with
      | .ok _ => none
      | .error failure => some (.run failure) := by
  rw [outcomeOf]
  cases run.result <;> cases destination <;> rfl

theorem stdout_outcomeOf (o : Options) (settings : Settings) (run : Stream.Run)
    (destination : Destination) (folder : Folder) :
    (o.outcomeOf settings run destination folder).stdout =
      match destination with
      | .stdout => run.sink.received.toList
      | .file _ => [] := by
  rw [outcomeOf]
  cases run.result <;> cases destination <;> rfl

/-- A run leaves its report at the destination that was created for it. -/
theorem folder_outcomeOf (o : Options) (settings : Settings) (run : Stream.Run)
    (destination : Destination) (folder : Folder) :
    (o.outcomeOf settings run destination (destination.put folder [])).folder =
      destination.put folder run.sink.received.toList := by
  rw [outcomeOf]
  cases run.result <;> cases destination <;>
    simp [Outcome.deliver, Destination.put, Folder.store_store]

/-! ### Steps -/

/-- Either the capture can be opened, unless it is piped, or there is one that cannot. -/
theorem canOpen_cases (o : Options) (folder : Folder) :
    (∀ path ∈ o.inputPath, canOpen folder path = true) ∨
      ∃ path, o.inputPath = some path ∧ canOpen folder path = false := by
  cases o.inputPath with
  | none => exact .inl nofun
  | some path =>
    cases hcan : canOpen folder path with
    | true =>
      left
      rintro path ⟨⟩
      exact hcan
    | false => exact .inr ⟨path, rfl, hcan⟩

/-- A capture that cannot be opened is the end of it. -/
theorem openFiles_of_not_canOpen {path : String} (hpath : o.inputPath = some path)
    (hclosed : canOpen folder path = false) : o.openFiles folder = .error (.openInput path) := by
  simp [openFiles, hpath, Option.filter_some, hclosed]

/-- A capture that can be opened does not matter to the destination. -/
theorem openFiles_of_canOpen (hopen : ∀ path ∈ o.inputPath, canOpen folder path = true) :
    o.openFiles folder = match o.output with
      | none => .ok (.stdout, folder)
      | some path => match folder.target? path with
        | none => .error (.createOutput path)
        | some spot => .ok (.file spot, folder.store spot []) := by
  have hnone : (o.inputPath.filter fun path => !canOpen folder path) = none := by
    rw [Option.filter_eq_none_iff]
    intro path hpath
    simp [hopen path hpath]
  rw [openFiles]
  generalize (o.inputPath.filter fun path => !canOpen folder path) = closed at hnone ⊢
  subst hnone
  rfl

/-- The files are opened if the capture can be and a destination, if there is to be one, can be
created. -/
theorem openFiles_eq_ok_iff {d : Destination} {created : Folder} :
    o.openFiles folder = .ok (d, created) ↔
      (∀ path ∈ o.inputPath, canOpen folder path = true) ∧
        (∀ path ∈ o.output, folder.target? path ≠ none) ∧
        d = o.destination folder ∧ created = d.put folder [] := by
  rcases o.canOpen_cases folder with hopen | ⟨path, hpath, hclosed⟩
  · rw [openFiles_of_canOpen hopen, destination, target?]
    cases o.output with
    | none =>
      constructor
      · rintro ⟨⟩
        exact ⟨hopen, by simp, rfl, rfl⟩
      · rintro ⟨-, -, rfl, rfl⟩
        rfl
    | some path =>
      simp only [Option.bind_some]
      cases htarget : folder.target? path with
      | none =>
        constructor
        · rintro ⟨⟩
        · rintro ⟨-, hcreate, -, -⟩
          exact absurd htarget (hcreate path rfl)
      | some spot =>
        constructor
        · rintro ⟨⟩
          exact ⟨hopen, by simp [htarget], rfl, rfl⟩
        · rintro ⟨-, -, rfl, rfl⟩
          rfl
  · rw [openFiles_of_not_canOpen hpath hclosed]
    constructor
    · rintro ⟨⟩
    · rintro ⟨hopen, -⟩
      rw [hopen path hpath] at hclosed
      cases hclosed

/-- **The steps up to the run**: the settings are put together, the channels switched, and the files
opened. -/
theorem prepare_eq_ok_iff {d : Destination} {created : Folder} :
    o.prepare folder = .ok (settings, device, d, created) ↔
      o.settings? folder = .ok settings ∧ deviceOf settings.input = .ok device ∧
        o.openFiles folder = .ok (d, created) := by
  rw [prepare, bind_eq_ok_iff]
  constructor
  · intro h
    obtain ⟨found, hfound, h⟩ := h
    obtain ⟨switched, hswitched, h⟩ := bind_eq_ok_iff.mp h
    obtain ⟨⟨d', created'⟩, hfiles, h⟩ := bind_eq_ok_iff.mp h
    cases h
    exact ⟨hfound, hswitched, hfiles⟩
  · rintro ⟨hsettings, hdevice, hfiles⟩
    exact ⟨settings, hsettings, bind_eq_ok_iff.mpr ⟨device, hdevice,
      bind_eq_ok_iff.mpr ⟨(d, created), hfiles, rfl⟩⟩⟩

/-! ### Problems on the way to the run -/

theorem isOfRun_of_settings? {problem : Problem} (h : o.settings? folder = .error problem) :
    problem.isOfRun = false := by
  rw [settings?] at h
  split at h
  · cases h
  · split at h
    · cases h
      rfl
    · cases h

theorem isOfRun_of_deviceOf {input : InputSettings} {problem : Problem}
    (h : deviceOf input = .error problem) : problem.isOfRun = false := by
  rw [deviceOf] at h
  split at h
  · cases h
    rfl
  · cases h

theorem isOfRun_of_openFiles {problem : Problem} (h : o.openFiles folder = .error problem) :
    problem.isOfRun = false := by
  rw [openFiles] at h
  split at h
  · cases h
    rfl
  · split at h
    · cases h
    · split at h
      · cases h
        rfl
      · cases h

/-- On the way to the run no problem of a run comes up. -/
theorem isOfRun_of_prepare {problem : Problem} (h : o.prepare folder = .error problem) :
    problem.isOfRun = false := by
  rw [prepare] at h
  rcases bind_eq_error h with hsettings | ⟨settings, -, h⟩
  · exact isOfRun_of_settings? hsettings
  · rcases bind_eq_error h with hdevice | ⟨device, -, h⟩
    · exact isOfRun_of_deviceOf hdevice
    · rcases bind_eq_error h with hfiles | ⟨files, -, h⟩
      · exact isOfRun_of_openFiles hfiles
      · cases h

/-! ### Outcomes -/

/-- **What comes of options**: the formats are listed, or a step fails and the folder is as it was,
or there is a run. -/
theorem execute_cases (o : Options) (stdin : List UInt8) (folder : Folder) :
    (o.listFormats = true ∧ o.execute stdin folder = .say folder formatList) ∨
    (o.listFormats = false ∧ ∃ problem, o.prepare folder = .error problem ∧
      o.execute stdin folder = { exit := .failure, problem := some problem, folder }) ∨
    (o.listFormats = false ∧ ∃ settings device,
      let created := (o.destination folder).put folder []
      o.prepare folder = .ok (settings, device, o.destination folder, created) ∧
        o.execute stdin folder =
          o.outcomeOf settings (Stream.run settings device (o.source stdin created) {})
            (o.destination folder) created) := by
  cases hlist : o.listFormats with
  | true => exact .inl ⟨rfl, by rw [execute, if_pos hlist]⟩
  | false =>
    rw [execute, if_neg (by simp [hlist])]
    cases hprepare : o.prepare folder with
    | error problem => exact .inr (.inl ⟨rfl, problem, rfl, rfl⟩)
    | ok prepared =>
      obtain ⟨settings, device, d, created⟩ := prepared
      obtain ⟨-, -, hfiles⟩ := prepare_eq_ok_iff.mp hprepare
      obtain ⟨-, -, rfl, rfl⟩ := openFiles_eq_ok_iff.mp hfiles
      exact .inr (.inr ⟨rfl, settings, device, rfl, rfl⟩)

/-- **A command line writes to its destination and nowhere else.** -/
theorem folder_execute (o : Options) (stdin : List UInt8) (folder : Folder) :
    (o.execute stdin folder).folder = folder ∨
      ∃ spot report, o.target? folder = some spot ∧
        (o.execute stdin folder).folder = folder.store spot report := by
  rcases o.execute_cases stdin folder with ⟨-, heq⟩ | ⟨-, problem, -, heq⟩ |
    ⟨-, settings, device, -, heq⟩
  · exact .inl (by rw [heq]; rfl)
  · exact .inl (by rw [heq])
  · rw [heq, folder_outcomeOf, destination]
    cases o.target? folder with
    | none => exact .inl rfl
    | some spot => exact .inr ⟨spot, _, rfl, rfl⟩

theorem status_ne_directory_of_target? {spot : Spot} (h : o.target? folder = some spot) :
    folder.status spot ≠ .directory := by
  obtain ⟨path, -, htarget⟩ := Option.bind_eq_some_iff.mp h
  obtain ⟨-, -, -, hfree, -⟩ := Folder.target?_eq_some_iff.mp htarget
  exact Folder.status_ne_directory_of_canCreate hfree

/-- A path that leads to any other file goes on to find it. -/
theorem look_execute {path : String} {content : List UInt8}
    (hlook : folder.look path = .file content)
    (hother : o.target? folder ≠ some (folder.spot path)) (stdin : List UInt8) :
    (o.execute stdin folder).folder.look path = .file content := by
  rcases o.folder_execute stdin folder with heq | ⟨spot, report, htarget, heq⟩
  · rw [heq, hlook]
  · have hne : folder.spot path ≠ spot := by
      rintro rfl
      exact hother htarget
    rw [heq, Folder.look_store (status_ne_directory_of_target? htarget) report (by simp [hlook])
      (by simp [hlook]), if_neg hne, hlook]

/-! ### Reports -/

/-- **What a command line reports**: if it comes to its run, and the settings pass the checks and
leave room for a block, the layout of its capture goes to its destination. -/
theorem execute_reports {p : Stream.Plan} (hlist : o.listFormats = false)
    (hsteps : o.prepare folder =
      .ok (settings, device, o.destination folder, (o.destination folder).put folder []))
    (hplan : Stream.plan settings device = .ok p)
    (hroom : p.cutting.blockSize ≤ Stream.memoryLimit)
    (hfault : (o.source stdin ((o.destination folder).put folder [])).fault = none) :
    let capture := (o.source stdin ((o.destination folder).put folder [])).bytes
    let report := Stream.Consumer.bytesOf (Report.layout device settings.output.lineWidth
      (Stream.recordingOf settings.input.sampleSize settings.input.triggerAt capture))
    let outcome := o.execute stdin folder
    outcome.exit = .success ∧ outcome.problem = none ∧
      outcome.folder = (o.destination folder).put folder report ∧
      outcome.stdout = match o.destination folder with
        | .stdout => report
        | .file _ => [] := by
  intro capture report outcome
  have houtcome : outcome = o.outcomeOf settings
      (Stream.run settings device (o.source stdin ((o.destination folder).put folder [])) {})
      (o.destination folder) ((o.destination folder).put folder []) := by
    show o.execute stdin folder = _
    rw [execute, hlist, hsteps]
    rfl
  have hsink : ({} : Stream.Sink).NeverFails := ⟨by simp, rfl, rfl⟩
  obtain ⟨⟨stats, hok⟩, hreceived⟩ := Stream.run_reports hplan hroom hfault hsink
  have hreport := hreceived.trans (List.nil_append _)
  rw [houtcome]
  refine ⟨?_, ?_, ?_, ?_⟩
  · rw [exit_outcomeOf, hok]
  · rw [problem_outcomeOf, hok]
  · rw [folder_outcomeOf, hreport]
  · rw [stdout_outcomeOf, hreport]

end Options

theorem execute_of_parse {args : List String} {o : Options} (h : parse args = .ok o)
    (stdin : List UInt8) (folder : Folder) :
    execute args stdin folder = o.execute stdin folder := by
  rw [execute, h]

end CaptureReport.Command
