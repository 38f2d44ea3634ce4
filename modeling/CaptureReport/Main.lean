import CaptureReport.Command.Log

/-!
# The command

The command as a program: it looks up what the paths of its command line lead to, reads standard
input if the capture comes from there, carries the command line out, and leaves behind what that has
come to. All that is decided is decided in `CaptureReport.Command`.

The system says which spot a path really leads to, and thereby where links are. There are two things
that it does not say. Names of one file that are no links are taken for names of several files here,
and a link with nothing at its end is taken for a name that is free.
-/

namespace CaptureReport.Main

/-- Whether a path can be opened for reading. -/
def opens (path : String) : BaseIO Bool := do
  match ← (IO.FS.Handle.mk path .read).toBaseIO with
  | .ok _ => return true
  | .error _ => return false

/-- The spot at the end of the links at a spot. -/
def follow (spot : Spot) : BaseIO Spot := do
  match ← (IO.FS.realPath spot.path).toBaseIO with
  | .ok real => return Path.spot real.toString
  | .error _ => return spot

/-- A folder with what is found at a spot: the link there, if it is one, and what is at its end. A
dot can be opened only below a directory. -/
def survey (folder : Folder) (spot : Spot) : IO Folder := do
  let last ← follow spot
  let links := if last = spot then folder.links else (spot, last) :: folder.links
  let folder := { folder with links }
  if ← opens (last.path ++ "/.") then
    return { folder with directories := last :: folder.directories }
  match ← (IO.FS.readBinFile last.path).toBaseIO with
  | .ok content => return folder.store last content.toList
  | .error _ => return folder

/-- A folder with what is found on the way that names lead from a spot on. -/
def explore (folder : Folder) : List String → Spot → IO Folder
  | [], spot => survey folder spot
  | name :: names, spot => do
    let folder ← survey folder spot
    explore folder names ((folder.resolve spot).step name)

/-- The folder as far as a command line can see it, and the standard input that it reads. -/
def gather (args : List String) : IO (Folder × List UInt8) := do
  match Command.parse args with
  | .error _ => return ({}, [])
  | .ok o =>
    let home := Path.spot (← IO.currentDir).toString
    let walk (folder : Folder) (path : String) : IO Folder :=
      explore folder (Path.names path) (folder.start path)
    let folder ← o.paths.foldlM walk { home }
    let stdin ← if o.readsStdin then (← IO.getStdin).readBinToEnd else pure .empty
    return (folder, stdin.toList)

end CaptureReport.Main

/-- Carries out a command line, and exits with its status. -/
def main (args : List String) : IO UInt32 := do
  let (before, stdin) ← CaptureReport.Main.gather args
  let outcome := CaptureReport.Command.execute args stdin before
  for (spot, content) in outcome.folder.changesFrom before do
    IO.FS.writeBinFile spot.path content.toByteArray
  let stdout ← IO.getStdout
  stdout.write outcome.stdout.toByteArray
  stdout.flush
  (← IO.getStderr).putStr outcome.log
  return outcome.exit.code.toUInt32
