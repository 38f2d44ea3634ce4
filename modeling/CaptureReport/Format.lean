/-!
# Report formats

The registry of the formats that a capture can be reported in. A **format** has an id by which it is
asked for, a description for people, and the names of the options it takes.
-/

namespace CaptureReport

/-- A report format. -/
inductive Format
  /-- Two hexadecimal digits for every eight samples of a channel. -/
  | hex
  deriving DecidableEq, Repr

namespace Format

/-- All formats, in the order in which they are listed. -/
def all : List Format :=
  [.hex]

def id : Format → String
  | .hex => "hex"

def description : Format → String
  | .hex => "Hexadecimal"

/-- The names of the options a format takes. -/
def options : Format → List String
  | .hex => ["width"]

/-- The format with an id. -/
def find? (id : String) : Option Format :=
  all.find? (·.id = id)

/-- The list contains every format. -/
theorem mem_all (f : Format) : f ∈ all := by
  cases f
  decide

/-- **A format is found by its id and by nothing else.** -/
theorem find?_eq_some_iff {id : String} {f : Format} : find? id = some f ↔ f.id = id := by
  cases f
  simp only [find?, all, List.find?_cons, List.find?_nil]
  split
  · rename_i h
    simpa using h
  · rename_i h
    simpa using h

end Format

end CaptureReport
