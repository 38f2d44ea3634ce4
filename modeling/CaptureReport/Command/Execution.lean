import CaptureReport.Command.Arguments
import CaptureReport.Command.Help
import CaptureReport.Settings.File
import CaptureReport.Stream.Run

/-!
# Carrying out a command line

A command line works on a folder and on standard input, and leaves the folder, standard output, an
exit status and notices behind. It goes through a fixed order of steps, and the first one that fails
is the one that is reported: the settings file is loaded, the options are applied to it, the
channels are switched, the capture is opened, the report's destination is created, and the capture
is run through.

Creating the destination empties a file that is already there, before the run has checked its own
settings and before a byte of the capture is read. A capture that is its own destination is
therefore read as empty, and a run that is refused leaves an empty file.
-/

namespace CaptureReport.Command

/-- What kept a command line from being carried out. -/
inductive Problem
  | config (path : String)
  | channels (cause : Refusal)
  | openInput (path : String)
  | createOutput (path : String)
  | run (failure : Stream.Failure)
  deriving DecidableEq, Repr

namespace Problem

def message : Problem → String
  | config path => "failed to load configuration from Some(" ++ Text.quote path ++ ")"
  | channels _ => "failed to configure channels"
  | openInput path => "failed to open " ++ path
  | createOutput path => "failed to create " ++ path
  | run failure => failure.message

/-- The messages below the first one that are known, outermost first. -/
def causes : Problem → List String
  | channels cause => [cause.message]
  | run failure => failure.causes
  | config _ | openInput _ | createOutput _ => []

end Problem

/-- How a command ends. -/
inductive Exit
  | success
  /-- A problem came up while the command line was carried out. -/
  | failure
  /-- The arguments are no command line. -/
  | usage
  deriving DecidableEq, Repr

/-- The number that an exit status is known by. -/
def Exit.code : Exit → Nat
  | success => 0
  | failure => 1
  | usage => 2

/-- What a command leaves behind. -/
structure Outcome where
  exit : Exit
  stdout : List UInt8 := []
  problem : Option Problem := none
  /-- The notices that are shown. -/
  notices : List Stream.Notice := []
  folder : Folder

/-- The outcome of a command that only prints a text. -/
def Outcome.say (folder : Folder) (text : String) : Outcome where
  exit := .success
  stdout := Stream.Consumer.bytesOf text
  folder := folder

/-- The notices that are shown: the warnings, and all others if more were asked for. -/
def Options.shown (o : Options) (notices : List Stream.Notice) : List Stream.Notice :=
  notices.filter fun notice => notice.isWarning || 0 < o.verbosity

/-- The settings of a command line: those of the file it names, and over them its own. -/
def Options.settings? (o : Options) (folder : Folder) : Except Problem Settings :=
  match o.config with
  | none => .ok (o.apply {})
  | some path =>
    match Settings.load? path (folder.look path) with
    | none => .error (.config path)
    | some settings => .ok (o.apply settings)

/-- The device of a command line, with its channels switched. -/
def deviceOf (input : InputSettings) : Except Problem Device :=
  let change := input.device.select input.enabled
  match change.result with
  | .error cause => .error (.channels cause)
  | .ok () => .ok change.device

/-- Whether a path can be opened for reading. A directory can; only reading it fails. -/
def canOpen (folder : Folder) (path : String) : Bool :=
  match folder.look path with
  | .file _ | .directory => true
  | .absent | .blocked => false

/-- The bytes behind a path that has been opened. -/
def sourceOf (folder : Folder) (path : String) : Stream.Source :=
  match folder.look path with
  | .file content => .ofBytes content
  | .directory => .failing "Is a directory (os error 21)"
  | .absent | .blocked => .ofBytes []

/-- Where a report goes: standard output, or the file at a spot. -/
inductive Destination
  | stdout
  | file (spot : Spot)
  deriving DecidableEq, Repr

/-- Opens the capture and creates the destination, and gives the folder after that. -/
def Options.openFiles (o : Options) (folder : Folder) : Except Problem (Destination × Folder) :=
  match o.inputPath.filter fun path => !canOpen folder path with
  | some path => .error (.openInput path)
  | none =>
    match o.output with
    | none => .ok (.stdout, folder)
    | some path =>
      match folder.target? path with
      | none => .error (.createOutput path)
      | some spot => .ok (.file spot, folder.store spot [])

/-- The outcome with the report delivered to its destination. -/
def Outcome.deliver (outcome : Outcome) (report : List UInt8) : Destination → Outcome
  | .stdout => { outcome with stdout := report }
  | .file spot => { outcome with folder := outcome.folder.store spot report }

/-- Runs the capture through, between the notices that the run begins and that it is over. What has
been written when a run fails is delivered all the same. -/
def Options.report (o : Options) (settings : Settings) (device : Device)
    (destination : Destination) (stdin : List UInt8) (folder : Folder) : Outcome :=
  let source := match o.inputPath with
    | none => .ofBytes stdin
    | some path => sourceOf folder path
  let run := Stream.run settings device source {}
  let started := Stream.Notice.started settings.input.channels settings.input.sampleSize
    settings.output.format
  let outcome : Outcome := match run.result with
    | .ok stats =>
      { exit := .success
        notices := o.shown (started :: run.notices ++ [.done stats.samples])
        folder }
    | .error failure =>
      { exit := .failure
        problem := some (.run failure)
        notices := o.shown (started :: run.notices)
        folder }
  outcome.deliver run.sink.received.toList destination

/-- Goes through the steps up to the run. -/
def Options.prepare (o : Options) (folder : Folder) :
    Except Problem (Settings × Device × Destination × Folder) := do
  let settings ← o.settings? folder
  let device ← deviceOf settings.input
  let (destination, folder) ← o.openFiles folder
  return (settings, device, destination, folder)

/-- Carries out options. -/
def Options.execute (o : Options) (stdin : List UInt8) (folder : Folder) : Outcome :=
  if o.listFormats then .say folder formatList
  else
    match o.prepare folder with
    | .error problem => { exit := .failure, problem := some problem, folder }
    | .ok (settings, device, destination, folder) =>
      o.report settings device destination stdin folder

/-- Carries out a command line. -/
def execute (args : List String) (stdin : List UInt8) (folder : Folder) : Outcome :=
  match parse args with
  | .error .usage => { exit := .usage, folder }
  | .error .version => .say folder versionText
  | .error .help => .say folder helpText
  | .ok o => o.execute stdin folder

end CaptureReport.Command
