import CaptureReport.Toml.Node
import CaptureReport.Toml.Quoted

/-!
# TOML statements

A document is a list of **statements**, one to a line: a key with its value, the header of a table,
or the header of another table in an array. Blank lines and comments stand between them.

Arrays and inline tables may run over several lines, with comments, and may end in a comma; only a
key with its dots stays on one line. They may be nested `nestingLimit` deep, and no key has more
parts than that. The readers of lists carry a
bound on the number of items; every item takes at least one character, so a bound above the length
of the text is never reached.
-/

namespace CaptureReport.Toml

/-- A statement of a document. -/
inductive Statement
  | entry (path : List String) (value : Value)
  | table (path : List String)
  | tableItem (path : List String)

/-! ### Between the lines -/

/-- The text without blanks in front. -/
def dropBlanks (cs : List Char) : List Char :=
  cs.dropWhile isBlank

/-- The text without blanks, line breaks and comments in front; `comment` says that the text starts
within a comment. A comment that holds a control leaves the text at it. -/
def skip (comment : Bool) : List Char → List Char
  | '\n' :: rest => skip false rest
  | '\r' :: '\n' :: rest => skip false rest
  | '#' :: rest => skip true rest
  | c :: rest =>
    if (comment && isPlain c) || isBlank c then skip comment rest else c :: rest
  | [] => []

/-- What follows a line of which the statement has been read: blanks, a comment, and the break. -/
def endLine? (cs : List Char) : Option (List Char) :=
  let cs := match dropBlanks cs with
    | '#' :: rest => rest.dropWhile isPlain
    | rest => rest
  match cs with
  | [] => some []
  | '\n' :: rest => some rest
  | '\r' :: '\n' :: rest => some rest
  | _ => none

/-! ### Keys -/

/-- The characters of a key that is not quoted. -/
def isKeyChar (c : Char) : Bool :=
  c.isAlphanum || c = '_' || c = '-'

/-- One part of a key. -/
def simpleKey? (cs : List Char) : Option (String × List Char) :=
  match cs with
  | '"' :: _ | '\'' :: _ => (shortString? cs).map fun (key, rest) => (String.ofList key, rest)
  | _ =>
    let key := cs.takeWhile isKeyChar
    if key.isEmpty then none else some (String.ofList key, cs.dropWhile isKeyChar)

/-- The most arrays and inline tables that may lie within each other, and the most parts of a
key. -/
def nestingLimit : Nat := 80

/-- A key with at most `parts` parts, and the text behind it and behind the blanks after it. -/
def keyOf? : (parts : Nat) → List Char → Option (List String × List Char)
  | 0, _ => none
  | parts + 1, cs => do
    let (part, rest) ← simpleKey? (dropBlanks cs)
    match dropBlanks rest with
    | '.' :: rest =>
      let (path, rest) ← keyOf? parts rest
      return (part :: path, rest)
    | rest => return ([part], rest)

/-- A key, and the text behind it and behind the blanks after it. -/
def key? (cs : List Char) : Option (List String × List Char) :=
  keyOf? nestingLimit cs

/-! ### Values -/

/-- A value that holds no other values. -/
def flatValue? (cs : List Char) : Option (Value × List Char) :=
  match cs with
  | '"' :: _ | '\'' :: _ =>
    (string? cs).map fun (text, rest) => (.string (String.ofList text), rest)
  | _ =>
    let (token, rest) := splitToken cs
    (scalar? token).map fun value => (value, rest)

/-- The rest of an array, from an element or the end on, with at most `bound` elements. -/
def elements? (read : List Char → Option (Value × List Char)) :
    (bound : Nat) → List Char → Option (List Value × List Char)
  | 0, _ => none
  | bound + 1, cs =>
    match skip false cs with
    | ']' :: rest => some ([], rest)
    | cs => do
      let (item, rest) ← read cs
      match skip false rest with
      | ']' :: rest => return ([item], rest)
      | ',' :: rest =>
        let (items, rest) ← elements? read bound rest
        return (item :: items, rest)
      | _ => none

/-- The rest of an inline table, from a key or the end on, with at most `bound` keys, added to the
entries so far. -/
def fields? (read : List Char → Option (Value × List Char)) :
    (bound : Nat) → Entries → List Char → Option (Entries × List Char)
  | 0, _, _ => none
  | bound + 1, entries, cs =>
    match skip false cs with
    | '\x7d' :: rest => some (entries, rest)
    | cs => do
      let (path, rest) ← key? cs
      let rest ← dropChar? '=' (skip false rest)
      let (value, rest) ← read (skip false rest)
      let entries ← entries.assign value true path
      match skip false rest with
      | '\x7d' :: rest => return (entries, rest)
      | ',' :: rest => fields? read bound entries rest
      | _ => none

/-- A value in which arrays and inline tables are at most `depth` deep, and have at most `bound`
items each. -/
def valueWithin? (bound : Nat) : (depth : Nat) → List Char → Option (Value × List Char)
  | depth + 1, '[' :: rest => do
    let (items, rest) ← elements? (valueWithin? bound depth) bound rest
    return (.array items, rest)
  | depth + 1, '\x7b' :: rest => do
    let (entries, rest) ← fields? (valueWithin? bound depth) bound [] rest
    return (.table (tableOf entries), rest)
  | _, cs => flatValue? cs

/-! ### Statements -/

/-- A statement, in which lists have at most `bound` items each, and the text behind it. -/
def statement? (bound : Nat) (cs : List Char) : Option (Statement × List Char) :=
  match cs with
  | '[' :: '[' :: rest => do
    let (path, rest) ← key? rest
    let rest ← dropChar? ']' rest
    let rest ← dropChar? ']' rest
    return (.tableItem path, rest)
  | '[' :: rest => do
    let (path, rest) ← key? rest
    let rest ← dropChar? ']' rest
    return (.table path, rest)
  | _ => do
    let (path, rest) ← key? cs
    let rest ← dropChar? '=' rest
    let (value, rest) ← valueWithin? bound nestingLimit (dropBlanks rest)
    return (.entry path value, rest)

/-- The statements of a text shorter than `bound`, which is more than there can be statements in it
and items in any list. -/
def statements? : (bound : Nat) → List Char → Option (List Statement)
  | 0, _ => none
  | bound + 1, cs =>
    match skip false cs with
    | [] => some []
    | cs => do
      let (statement, rest) ← statement? (bound + 1) cs
      let rest ← endLine? rest
      let later ← statements? bound rest
      return statement :: later

end CaptureReport.Toml
