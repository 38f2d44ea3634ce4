import CaptureReport.Command.Options
import CaptureReport.Text.Decimal
import CaptureReport.Text.Pieces

/-!
# Arguments

The arguments of a command line are read from left to right, and the first one that settles the
matter does: a mistake makes the command line unusable, and a request for the version or for help is
granted, whatever comes after.

* A long option is two dashes and its name, a short one is a dash and a letter. Short options
  without values can share a dash, and the last letter behind a dash may be one with a value.
* A value follows as the next argument, or directly: behind an equals sign after a long name, and
  right after a short letter with or without one. The next argument is not taken if it starts with a
  dash, unless it is a dash alone.
* Options other than `--enable` and `--verbose` are given once at most. The values of `--enable` are
  separated by commas, and come together if it is given more often.
* Two dashes alone end the options. What is no option is the capture, of which there is one.
-/

namespace CaptureReport.Command

/-- Why the arguments are not carried out as a run. -/
inductive Stop
  /-- The arguments are no command line. -/
  | usage
  | version
  | help
  deriving DecidableEq, Repr

/-- The options that take a value. -/
inductive Valued
  | config
  | output
  | channels
  | unitSize
  | sampleRate
  | enable
  | width
  | triggerAt
  | format
  deriving DecidableEq, Repr

/-- The options that take none. -/
inductive Flag
  | listFormats
  | verbose
  | help
  | version
  deriving DecidableEq, Repr

/-- An option of either sort. -/
inductive Opt
  | valued (v : Valued)
  | flag (f : Flag)
  deriving DecidableEq, Repr

/-- The long names. -/
def longNames : List (String × Opt) :=
  [("config", .valued .config), ("output", .valued .output), ("channels", .valued .channels),
   ("unitsize", .valued .unitSize), ("samplerate", .valued .sampleRate),
   ("enable", .valued .enable), ("width", .valued .width), ("trigger-at", .valued .triggerAt),
   ("format", .valued .format), ("list-formats", .flag .listFormats), ("verbose", .flag .verbose),
   ("help", .flag .help), ("version", .flag .version)]

/-- The short names. -/
def shortNames : List (Char × Opt) :=
  [('c', .valued .config), ('o', .valued .output), ('w', .valued .width),
   ('t', .valued .triggerAt), ('f', .valued .format), ('v', .flag .verbose), ('h', .flag .help),
   ('V', .flag .version)]

/-! ### Values -/

/-- A value for an option that has none yet. -/
def once {α : Type} (value : Option α) : Option α → Except Stop (Option α)
  | none => match value with
    | some value => .ok (some value)
    | none => .error .usage
  | some _ => .error .usage

/-- A number, as options are given it. -/
def word? (text : String) : Option Nat :=
  Text.word? text.toList

/-- A path, which is not empty. -/
def path? (text : String) : Option String :=
  if text.isEmpty then none else some text

/-- The options with a value for one of them. -/
def Options.give (o : Options) (option : Valued) (text : String) : Except Stop Options :=
  match option with
  | .config => return { o with config := ← once (path? text) o.config }
  | .output => return { o with output := ← once (path? text) o.output }
  | .channels => return { o with channels := ← once (word? text) o.channels }
  | .unitSize => return { o with unitSize := ← once (word? text) o.unitSize }
  | .sampleRate => return { o with sampleRate := ← once (word? text) o.sampleRate }
  | .width => return { o with width := ← once (word? text) o.width }
  | .triggerAt => return { o with triggerAt := ← once (word? text) o.triggerAt }
  | .format => return { o with format := ← once (some text) o.format }
  | .enable =>
    match (Text.pieces ',' text).mapM word? with
    | some indices => .ok { o with enable := some (o.enable.getD [] ++ indices) }
    | none => .error .usage

/-- The options with a flag set. -/
def Options.raise (o : Options) : Flag → Except Stop Options
  | .listFormats => if o.listFormats then .error .usage else .ok { o with listFormats := true }
  | .verbose => .ok { o with verbosity := o.verbosity + 1 }
  | .help => .error .help
  | .version => .error .version

/-- The options with the capture named. -/
def Options.name (o : Options) (text : String) : Except Stop Options :=
  return { o with input := ← once (path? text) o.input }

/-! ### Single arguments -/

/-- What an argument leaves to be done: nothing, or to find the value of an option in the next
argument. -/
inductive Pending
  | nothing
  | value (option : Valued)
  deriving DecidableEq, Repr

/-- Whether an argument can be the value of the option before it. -/
def isValue (arg : String) : Bool :=
  arg = "-" || !arg.startsWith "-"

/-- Reads a long option, from behind the dashes. -/
def readLong (o : Options) (cs : List Char) : Except Stop (Options × Pending) :=
  let name := String.ofList (cs.takeWhile (· ≠ '='))
  match longNames.lookup name, cs.dropWhile (· ≠ '=') with
  | some (.valued option), [] => .ok (o, .value option)
  | some (.valued option), _ :: value => return (← o.give option (String.ofList value), .nothing)
  | some (.flag flag), [] => return (← o.raise flag, .nothing)
  | some (.flag _), _ :: _ => .error .usage
  | none, _ => .error .usage

/-- Reads short options, from behind the dash. -/
def readShort (o : Options) : List Char → Except Stop (Options × Pending)
  | [] => .ok (o, .nothing)
  | c :: rest =>
    match shortNames.lookup c with
    | none => .error .usage
    | some (.flag flag) => do readShort (← o.raise flag) rest
    | some (.valued option) =>
      match rest with
      | [] => .ok (o, .value option)
      | '=' :: value => return (← o.give option (String.ofList value), .nothing)
      | value => return (← o.give option (String.ofList value), .nothing)

/-- Reads an argument that is not the value of the one before. -/
def readArgument (o : Options) (arg : String) : Except Stop (Options × Pending) :=
  match arg.toList with
  | '-' :: '-' :: name => readLong o name
  | '-' :: c :: rest => readShort o (c :: rest)
  | _ => return (← o.name arg, .nothing)

/-! ### Whole command lines -/

/-- Reads arguments of which none is an option any more. -/
def readNames : List String → Options → Except Stop Options
  | [], o => .ok o
  | arg :: rest, o => do readNames rest (← o.name arg)

/-- Reads arguments, the first of which is the value that is pending. -/
def readAll : Pending → List String → Options → Except Stop Options
  | .nothing, [], o => .ok o
  | .value _, [], _ => .error .usage
  | .value option, arg :: rest, o =>
    if isValue arg then do readAll .nothing rest (← o.give option arg)
    else .error .usage
  | .nothing, arg :: rest, o =>
    if arg = "--" then readNames rest o
    else do
      let (o, pending) ← readArgument o arg
      readAll pending rest o

/-- Reads a command line. -/
def parse (args : List String) : Except Stop Options :=
  readAll .nothing args {}

end CaptureReport.Command
