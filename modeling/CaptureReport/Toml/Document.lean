import CaptureReport.Toml.Statement

/-!
# TOML documents

A **document** is UTF-8 text, perhaps behind a byte order mark. Its keys go into the table of the
header above them, and the keys above the first header into the table that is the document. A
document with a single statement that cannot be read, or that clashes with an earlier one, is no
document at all.
-/

namespace CaptureReport.Toml

/-- A document being put together: its table so far, and the path of the latest header. -/
structure Draft where
  root : Entries := []
  header : List String := []

/-- The draft with one more statement. -/
def Draft.add? (d : Draft) : Statement → Option Draft
  | .entry path value => do
    let root ← Entries.within (Entries.assign value true path) d.header d.root
    return { d with root }
  | .table path => do
    let key ← path.getLast?
    let root ← Entries.within (Entries.introduce key) path.dropLast d.root
    return { root, header := path }
  | .tableItem path => do
    let key ← path.getLast?
    let root ← Entries.within (Entries.introduceItem key) path.dropLast d.root
    return { root, header := path }

/-- The table that statements make up. -/
def assemble? (statements : List Statement) : Option Table := do
  let draft ← statements.foldlM Draft.add? {}
  return tableOf draft.root

/-- The table that a text denotes. -/
def parse? (text : String) : Option Table := do
  let cs := match text.toList with
    | '\ufeff' :: rest => rest
    | cs => cs
  assemble? (← statements? (cs.length + 1) cs)

/-- The table that a file denotes. -/
def parseBytes? (bytes : List UInt8) : Option Table := do
  parse? (← String.fromUTF8? bytes.toByteArray)

end CaptureReport.Toml
