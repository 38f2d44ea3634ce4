import CaptureReport.Proofs.Command.Execution

/-!
# Where a capture comes from and where its report goes

A capture can be named or piped into standard input, and a report can go to standard output or to a
file. Neither is seen in the report, with one exception: a command line that names the same file for
both empties its capture before it reads it. The two paths need not be spelled alike for that; it is
enough that they lead to the same spot.

## Main results

* `Options.overwritesCapture_iff`: when the capture is its own destination.
* `Options.source_put`: what is read once the destination has been created.
* `Options.execute_piped`: a capture that is named and one that is piped.
* `Options.execute_plain`: a report that goes to a file and one that goes to standard output.
* `Options.look_of_overwritesCapture`: what becomes of a capture that is its own destination.
* `redirection`: both, and that no other file is changed.
-/

namespace CaptureReport.Command

namespace Options

/-- Whether a command line comes to its run: it does not just list the formats, and no step on the
way fails. -/
def runs (o : Options) (folder : Folder) : Bool :=
  !o.listFormats && (o.prepare folder).isOk

/-- Whether the file that a command line names as its capture is the destination of its report. -/
def overwritesCapture (o : Options) (folder : Folder) : Bool :=
  o.inputPath.any fun path => canOpen folder path && o.target? folder = some (folder.spot path)

/-- The command line without a destination. -/
def plain (o : Options) : Options :=
  { o with output := none }

variable {o : Options} {folder : Folder} {spot : Spot}

/-! ### Sources -/

/-- **The capture is its own destination** exactly if both can be opened and their paths lead to the
same spot. -/
theorem overwritesCapture_iff :
    o.overwritesCapture folder = true ↔
      ∃ capture report, o.inputPath = some capture ∧ o.output = some report ∧
        canOpen folder capture = true ∧ folder.target? report ≠ none ∧
        folder.spot report = folder.spot capture := by
  rw [overwritesCapture, target?]
  constructor
  · intro h
    obtain ⟨capture, hcapture, h⟩ := (Option.any_eq_true ..).mp h
    obtain ⟨hopen, htarget⟩ := Bool.and_eq_true_iff.mp h
    obtain ⟨report, hreport, hspot⟩ := Option.bind_eq_some_iff.mp (of_decide_eq_true htarget)
    obtain ⟨-, -, -, -, hsame⟩ := Folder.target?_eq_some_iff.mp hspot
    exact ⟨capture, report, hcapture, hreport, hopen, by simp [hspot], hsame.symm⟩
  · rintro ⟨capture, report, hcapture, hreport, hopen, hcreate, hsame⟩
    obtain ⟨spot, hspot⟩ := Option.ne_none_iff_exists'.mp hcreate
    obtain ⟨-, -, -, -, rfl⟩ := Folder.target?_eq_some_iff.mp hspot
    rw [hcapture, hreport]
    simp [hopen, hspot, hsame]

/-- A destination that spells the capture out from the root is the capture. -/
theorem overwritesCapture_of_home (hhome : folder.PlainHome) {capture : String}
    (hrelative : capture.startsWith "/" = false) (hcapture : o.inputPath = some capture)
    (hreport : o.output = some (folder.home.path ++ "/" ++ capture))
    (hopen : canOpen folder capture = true)
    (hcreate : folder.target? (folder.home.path ++ "/" ++ capture) ≠ none) :
    o.overwritesCapture folder = true :=
  overwritesCapture_iff.mpr
    ⟨_, _, hcapture, hreport, hopen, hcreate, Folder.spot_home_append hhome hrelative⟩

theorem canOpen_iff {path : String} :
    canOpen folder path = true ↔ folder.look path ≠ .absent ∧ folder.look path ≠ .blocked := by
  rw [canOpen]
  cases folder.look path <;> simp

theorem canOpen_congr {before after : Folder} {path : String}
    (h : after.look path = before.look path) : canOpen after path = canOpen before path := by
  rw [canOpen, canOpen, h]

theorem sourceOf_congr {before after : Folder} {path : String}
    (h : after.look path = before.look path) : sourceOf after path = sourceOf before path := by
  rw [sourceOf, sourceOf, h]

/-- **What is read once the destination has been created**: the capture as it was, unless it was
emptied by that. -/
theorem source_put (hopen : ∀ path ∈ o.inputPath, canOpen folder path = true)
    (stdin : List UInt8) :
    o.source stdin ((o.destination folder).put folder []) =
      if o.overwritesCapture folder then .ofBytes [] else o.source stdin folder := by
  rw [overwritesCapture, source, source]
  cases hpath : o.inputPath with
  | none => rfl
  | some path =>
    have hcan := hopen path hpath
    obtain ⟨habsent, hblocked⟩ := canOpen_iff.mp hcan
    rw [destination]
    cases htarget : o.target? folder with
    | none => simp [Destination.put]
    | some spot =>
      have hlook := Folder.look_store (status_ne_directory_of_target? htarget) [] habsent hblocked
      by_cases hsame : folder.spot path = spot
      · rw [if_pos hsame] at hlook
        simp [Destination.put, hcan, hsame, sourceOf, hlook]
      · rw [if_neg hsame] at hlook
        simp [Destination.put, hcan, Ne.symm hsame, sourceOf_congr hlook]

/-! ### Named and piped captures -/

/-- The files are opened last, so what they are opened to does not matter to the steps before. -/
theorem prepare_of_openFiles {other : Options} {folder' : Folder}
    {f : Destination × Folder → Destination × Folder}
    (hsettings : other.settings? folder' = o.settings? folder)
    (hfiles : other.openFiles folder' = (o.openFiles folder).map f) :
    other.prepare folder' = (o.prepare folder).map fun prepared =>
      (prepared.1, prepared.2.1, f prepared.2.2) := by
  rw [prepare, prepare, hsettings, hfiles]
  cases o.settings? folder with
  | error problem => rfl
  | ok settings =>
    cases hdevice : deviceOf settings.input with
    | error problem => simp [bind, Except.bind, hdevice, Except.map]
    | ok device =>
      cases o.openFiles folder with
      | error problem => simp [bind, Except.bind, hdevice, Except.map]
      | ok files => simp [bind, Except.bind, hdevice, Except.map, pure, Except.pure]

theorem prepare_congr {other : Options} (hsettings : other.settings? folder = o.settings? folder)
    (hfiles : other.openFiles folder = o.openFiles folder) :
    other.prepare folder = o.prepare folder := by
  rw [prepare, prepare, hsettings, hfiles]

/-- A capture that is named by a path and one that is piped come to the same, unless the
destination empties the one that is named. -/
theorem execute_piped {path : String} {content : List UInt8} (hpath : o.inputPath = some path)
    (hlook : folder.look path = .file content) {input : Option String}
    (hinput : input.filter (· ≠ "-") = none) (stdin : List UInt8) :
    o.execute stdin folder =
      { o with input }.execute (if o.overwritesCapture folder then [] else content) folder := by
  set piped : Options := { o with input }
  have hpiped : piped.inputPath = none := hinput
  have hopen : ∀ path ∈ o.inputPath, canOpen folder path = true := by
    intro path' hpath'
    obtain rfl := Option.some.inj (hpath.symm.trans hpath')
    rw [canOpen, hlook]
  have hfiles : piped.openFiles folder = o.openFiles folder := by
    rw [openFiles_of_canOpen hopen, openFiles_of_canOpen (by simp [hpiped])]
  have hprepare : piped.prepare folder = o.prepare folder := prepare_congr rfl hfiles
  rw [execute, execute, hprepare]
  cases hsteps : o.prepare folder with
  | error problem => rfl
  | ok prepared =>
    obtain ⟨settings, device, d, created⟩ := prepared
    obtain ⟨-, -, hdone⟩ := prepare_eq_ok_iff.mp hsteps
    obtain ⟨-, -, rfl, rfl⟩ := openFiles_eq_ok_iff.mp hdone
    have hsource : o.source stdin ((o.destination folder).put folder []) =
        piped.source (if o.overwritesCapture folder then [] else content)
          ((o.destination folder).put folder []) := by
      rw [source_put hopen, source, source, hpiped, hpath]
      dsimp only
      rw [sourceOf, hlook]
      split <;> rfl
    dsimp only
    rw [report_eq, report_eq, hsource]
    rfl

/-! ### Files and standard output -/

/-- A destination that can be created is all that the files of a command line have to do with it. -/
theorem openFiles_of_target? (h : o.target? folder = some spot) :
    o.openFiles folder =
      (o.plain.openFiles folder).map fun _ => (.file spot, folder.store spot []) := by
  obtain ⟨path, hpath, htarget⟩ := Option.bind_eq_some_iff.mp h
  rcases o.canOpen_cases folder with hopen | ⟨capture, hcapture, hclosed⟩
  · have hplain : ∀ path ∈ o.plain.inputPath, canOpen folder path = true := hopen
    rw [openFiles_of_canOpen hopen, openFiles_of_canOpen hplain, hpath]
    simp only [htarget]
    rfl
  · have hplain : o.plain.inputPath = some capture := hcapture
    rw [openFiles_of_not_canOpen hcapture hclosed, openFiles_of_not_canOpen hplain hclosed]
    rfl

theorem prepare_of_target? (h : o.target? folder = some spot) :
    o.prepare folder = (o.plain.prepare folder).map fun prepared =>
      (prepared.1, prepared.2.1, .file spot, folder.store spot []) := by
  have hsettings : o.settings? folder = o.plain.settings? folder := rfl
  exact prepare_of_openFiles hsettings (openFiles_of_target? h)

/-- A run that goes to a file leaves there what would have gone to standard output. -/
theorem outcomeOf_file (o : Options) (settings : Settings) (run : Stream.Run) (spot : Spot)
    (folder : Folder) :
    let plain := o.outcomeOf settings run .stdout folder
    o.outcomeOf settings run (.file spot) (folder.store spot []) =
      { plain with stdout := [], folder := folder.store spot plain.stdout } := by
  simp only [outcomeOf]
  cases run.result <;> simp [Outcome.deliver, Folder.store_store]

/-- A report that goes to a file is the one that goes to standard output otherwise, unless the
command line does not come to its run, or empties its own capture. -/
theorem execute_plain (htarget : o.target? folder = some spot)
    (hkeep : o.overwritesCapture folder = false) (stdin : List UInt8) :
    let plain := o.plain.execute stdin folder
    o.execute stdin folder =
      if o.runs folder then
        { plain with stdout := [], folder := folder.store spot plain.stdout }
      else plain := by
  intro plain
  have hprepare := prepare_of_target? htarget
  have hdestination : o.destination folder = .file spot := by rw [destination, htarget]
  rcases o.plain.execute_cases stdin folder with ⟨hlists, heq⟩ | ⟨hlists, problem, hfails, heq⟩ |
    ⟨hlists, settings, device, hsteps, heq⟩
  · have hlist : o.listFormats = true := hlists
    have hself : o.execute stdin folder = .say folder formatList := by rw [execute, if_pos hlist]
    rw [runs, hlist, hself]
    exact heq.symm
  · have hlist : o.listFormats = false := hlists
    rw [hfails] at hprepare
    rw [runs, hprepare, execute, hprepare, hlist]
    exact heq.symm
  · have hlist : o.listFormats = false := hlists
    obtain ⟨-, -, hfiles⟩ := prepare_eq_ok_iff.mp hsteps
    obtain ⟨hopen, -⟩ := openFiles_eq_ok_iff.mp hfiles
    have hsource : o.source stdin (folder.store spot []) = o.source stdin folder := by
      have hcan : ∀ path ∈ o.inputPath, canOpen folder path = true := hopen
      have hput := source_put hcan stdin
      rw [hdestination, hkeep] at hput
      exact hput
    have hself : o.execute stdin folder =
        o.outcomeOf settings (Stream.run settings device (o.source stdin folder) {}) (.file spot)
          (folder.store spot []) := by
      rw [hsteps] at hprepare
      rw [execute, hprepare, hlist, ← hsource]
      rfl
    have hruns : o.runs folder = true := by
      rw [runs, hprepare, hsteps, hlist]
      rfl
    have hplain : plain =
        o.outcomeOf settings (Stream.run settings device (o.source stdin folder) {}) .stdout
          folder := heq
    rw [if_pos hruns, hself, hplain, outcomeOf_file]

/-! ### Captures that are their own destination -/

/-- **What becomes of a capture that is its own destination**: if the run goes through, it holds the
report of a capture without a byte. -/
theorem look_of_overwritesCapture {settings : Settings} {device : Device} {p : Stream.Plan}
    {path : String} (hpath : o.inputPath = some path) (hover : o.overwritesCapture folder = true)
    (hlist : o.listFormats = false)
    (hsteps : o.prepare folder =
      .ok (settings, device, o.destination folder, (o.destination folder).put folder []))
    (hplan : Stream.plan settings device = .ok p)
    (hroom : p.cutting.blockSize ≤ Stream.memoryLimit) (stdin : List UInt8) :
    (o.execute stdin folder).exit = .success ∧
      (o.execute stdin folder).folder.look path =
        .file (Stream.Consumer.bytesOf (Report.layout device settings.output.lineWidth
          (Stream.recordingOf settings.input.sampleSize settings.input.triggerAt []))) := by
  obtain ⟨-, -, hfiles⟩ := prepare_eq_ok_iff.mp hsteps
  obtain ⟨hopen, -⟩ := openFiles_eq_ok_iff.mp hfiles
  have hempty := source_put hopen stdin
  rw [hover, if_pos rfl] at hempty
  have hfault : (o.source stdin ((o.destination folder).put folder [])).fault = none := by
    rw [hempty]
    rfl
  obtain ⟨hexit, -, hfolder, -⟩ := execute_reports hlist hsteps hplan hroom hfault
  refine ⟨hexit, ?_⟩
  have htarget : o.target? folder = some (folder.spot path) := by
    rw [overwritesCapture, hpath, Option.any_some, Bool.and_eq_true] at hover
    exact of_decide_eq_true hover.2
  obtain ⟨habsent, hblocked⟩ := canOpen_iff.mp (hopen path hpath)
  rw [hfolder, hempty, destination, htarget, Destination.put,
    Folder.look_store (status_ne_directory_of_target? htarget) _ habsent hblocked, if_pos rfl]
  rfl

end Options

/-- **Where a capture comes from and where its report goes is not seen in the report.** A capture
that is named comes to the same as one that is piped, or to the same as an empty one if it is the
destination. A file gets what standard output gets without a destination, once the run is reached,
and standard output gets nothing then. Every other file is as it was. -/
theorem redirection {args : List String} {o : Options} (hargs : parse args = .ok o)
    (stdin : List UInt8) (folder : Folder) :
    (∀ path content input piped, o.inputPath = some path → folder.look path = .file content →
      (input = none ∨ input = some "-") → parse piped = .ok { o with input } →
      execute args stdin folder =
        execute piped (if o.overwritesCapture folder then [] else content) folder) ∧
    (∀ spot unredirected, o.target? folder = some spot → o.overwritesCapture folder = false →
      parse unredirected = .ok o.plain →
      let plain := execute unredirected stdin folder
      execute args stdin folder =
        if o.runs folder then
          { plain with stdout := [], folder := folder.store spot plain.stdout }
        else plain) ∧
    (∀ path content, folder.look path = .file content →
      o.target? folder ≠ some (folder.spot path) →
      (execute args stdin folder).folder.look path = .file content) := by
  rw [execute_of_parse hargs]
  refine ⟨?_, ?_, ?_⟩
  · intro path content input piped hpath hlook hinput hpiped
    rw [execute_of_parse hpiped]
    refine Options.execute_piped hpath hlook ?_ stdin
    rcases hinput with rfl | rfl <;> rfl
  · intro spot unredirected htarget hkeep hplain
    rw [execute_of_parse hplain]
    exact Options.execute_plain htarget hkeep stdin
  · intro path content hlook hother
    exact Options.look_execute hlook hother stdin

/-- Eight samples of all channels, named and piped, to a file and to standard output. -/
theorem redirection_eight :
    let capture := List.replicate 8 255
    let folder : Folder := .ofFiles [("cap.bin", capture)]
    let spot := Path.spot "out.txt"
    let o : Options := { input := some "cap.bin", output := some "out.txt", width := some 8 }
    let outcome := execute ["cap.bin", "-o", "out.txt", "-w", "8"] [] folder
    let plain := execute ["cap.bin", "-w", "8"] [] folder
    parse ["cap.bin", "-o", "out.txt", "-w", "8"] = .ok o ∧
      o.target? folder = some spot ∧ o.overwritesCapture folder = false ∧
      outcome = execute ["-", "-o", "out.txt", "-w", "8"] capture folder ∧
      outcome = { plain with stdout := [], folder := folder.store spot plain.stdout } ∧
      outcome.folder.look "cap.bin" = .file capture := by
  intro capture folder spot o outcome plain
  have hargs : parse ["cap.bin", "-o", "out.txt", "-w", "8"] = .ok o := by decide +kernel
  have htarget : o.target? folder = some spot := by decide +kernel
  have hkeep : o.overwritesCapture folder = false := by decide +kernel
  have hlook : folder.look "cap.bin" = .file capture := by decide +kernel
  have hruns : o.runs folder = true := by decide +kernel
  obtain ⟨hpiped, hplain, hother⟩ := redirection hargs [] folder
  have hsame := hpiped "cap.bin" capture (some "-") ["-", "-o", "out.txt", "-w", "8"] rfl hlook
    (.inr rfl) (by decide +kernel)
  have hfile := hplain spot ["cap.bin", "-w", "8"] htarget hkeep (by decide +kernel)
  rw [hkeep] at hsame
  rw [hruns] at hfile
  exact ⟨hargs, htarget, hkeep, hsame, hfile, hother "cap.bin" capture hlook (by decide +kernel)⟩

/-- A capture that is its own destination is emptied, and read as empty, by whichever of its names
the destination is given. A listing of formats goes to standard output all the same, and a command
that stops before its run leaves its destination alone. -/
theorem capture_emptied_by_destination :
    let capture := List.replicate 8 255
    let folder : Folder :=
      { Folder.ofFiles [("cap.bin", capture), ("old.txt", [111])] with
        links := [(Path.spot "link.bin", Path.spot "cap.bin")] }
    let listing := execute ["--list-formats", "-o", "new.txt"] [] folder
    let stopped := execute ["absent.bin", "-o", "old.txt"] [] folder
    (∀ path ∈ ["cap.bin", "../work/cap.bin", "/tmp/work/cap.bin", "link.bin"],
      let outcome := execute ["cap.bin", "-o", path, "--channels", "1"] [] folder
      folder.look "cap.bin" = .file capture ∧ outcome.exit = .success ∧
        outcome.folder.look "cap.bin" = .file []) ∧
    (folder.target? "new.txt" = some (Path.spot "new.txt") ∧ listing.stdout ≠ [] ∧
      listing.folder.look "new.txt" = .absent) ∧
    (folder.target? "old.txt" = some (Path.spot "old.txt") ∧
      (execute ["absent.bin"] [] folder).stdout = [] ∧
      stopped.folder.look "old.txt" = .file [111]) := by
  intro capture folder listing stopped
  have hlisting : folder.target? "new.txt" = some (Path.spot "new.txt") ∧ listing.stdout ≠ [] ∧
      listing.folder.look "new.txt" = .absent := by decide +kernel
  have hstopped : folder.target? "old.txt" = some (Path.spot "old.txt") ∧
      (execute ["absent.bin"] [] folder).stdout = [] ∧
      stopped.folder.look "old.txt" = .file [111] := by decide +kernel
  refine ⟨?_, hlisting, hstopped⟩
  intro path hpath outcome
  let o : Options := { input := some "cap.bin", output := some path, channels := some 1 }
  let settings : Settings := { input := { channels := 1 } }
  have hargs : parse ["cap.bin", "-o", path, "--channels", "1"] = .ok o := by
    revert path
    decide +kernel
  have hlook : folder.look "cap.bin" = .file capture := by decide +kernel
  have hover : o.overwritesCapture folder = true := by
    revert path
    decide +kernel
  have hopen : ∀ capture ∈ o.inputPath, canOpen folder capture = true := by
    revert path
    decide +kernel
  have hcreate : ∀ path ∈ o.output, folder.target? path ≠ none := by
    revert path
    decide +kernel
  have hsteps : o.prepare folder = .ok (settings, settings.input.device, o.destination folder,
      (o.destination folder).put folder []) :=
    Options.prepare_eq_ok_iff.mpr
      ⟨rfl, rfl, Options.openFiles_eq_ok_iff.mpr ⟨hopen, hcreate, rfl, rfl⟩⟩
  obtain ⟨p, hplan⟩ : ∃ p, Stream.plan settings settings.input.device = .ok p :=
    Stream.exists_plan (by decide +kernel)
  have hroom : p.cutting.blockSize ≤ Stream.memoryLimit := by
    rw [Stream.blockSize_of_plan hplan]
    decide
  have hreport : Stream.Consumer.bytesOf (Report.layout settings.input.device
      settings.output.lineWidth (Stream.recordingOf settings.input.sampleSize
        settings.input.triggerAt [])) = [] := by decide +kernel
  have hinput : o.inputPath = some "cap.bin" := rfl
  obtain ⟨hexit, hafter⟩ :=
    Options.look_of_overwritesCapture hinput hover rfl hsteps hplan hroom []
  rw [hreport] at hafter
  have houtcome : outcome = o.execute [] folder := execute_of_parse hargs [] folder
  rw [houtcome]
  exact ⟨hlook, hexit, hafter⟩

end CaptureReport.Command
