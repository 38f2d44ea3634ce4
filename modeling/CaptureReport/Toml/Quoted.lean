import CaptureReport.Toml.Scalar

/-!
# Quoted strings

A string stands between double quotes, where a backslash escapes, or between apostrophes, where
nothing does. Tripled, either mark begins a string of several lines; a line break right after the
opening mark does not count, and up to two quotes in front of the closing mark belong to the string.
A backslash at the end of a line drops the break and all blanks and breaks after it.

No control other than the tab, and in strings of several lines the line break, may stand in a string
as itself. A line break is a line feed, with or without a carriage return before it.

Each reader starts behind the opening mark and gives the characters of the string and the text
behind the closing mark.
-/

namespace CaptureReport.Toml

/-- Controls other than the tab may not stand for themselves in strings or comments. -/
def isPlain (c : Char) : Bool :=
  c = '\t' || (0x20 ≤ c.toNat && c.toNat ≠ 0x7f)

/-- What a letter behind a backslash stands for. -/
def letterEscape? (c : Char) : Option Char :=
  match c with
  | 'b' => some '\x08'
  | 't' => some '\t'
  | 'n' => some '\n'
  | 'f' => some '\x0c'
  | 'r' => some '\r'
  | 'e' => some '\x1b'
  | '"' => some '"'
  | '\\' => some '\\'
  | _ => none

/-- How many hexadecimal digits follow a letter that announces a code point. -/
def codeLength? (c : Char) : Option Nat :=
  match c with
  | 'x' => some 2
  | 'u' => some 4
  | 'U' => some 8
  | _ => none

/-- The character with a code point, given by exactly so many digits. Surrogates are none. -/
def codePoint? (count : Nat) (cs : List Char) : Option Char :=
  let n := ofBase 16 cs
  if cs.length = count && cs.all isHexDigit && (n < 0xd800 || (0xe000 ≤ n && n < 0x110000)) then
    some (Char.ofNat n)
  else none

/-- The character that an escape stands for, and the text behind it. The text starts behind the
backslash. -/
def escape? : List Char → Option (Char × List Char)
  | [] => none
  | c :: rest =>
    match letterEscape? c with
    | some d => some (d, rest)
    | none => do
      let count ← codeLength? c
      let d ← codePoint? count (rest.take count)
      return (d, rest.drop count)

theorem length_escape? {cs rest : List Char} {c : Char} (h : escape? cs = some (c, rest)) :
    rest.length < cs.length := by
  unfold escape? at h
  split at h
  · simp at h
  · split at h
    · simp only [Option.some.injEq, Prod.mk.injEq] at h
      obtain ⟨-, rfl⟩ := h
      simp
    · simp only [Option.bind_eq_bind, Option.bind_eq_some_iff, Option.pure_def, Option.some.injEq,
        Prod.mk.injEq] at h
      obtain ⟨count, -, d, -, -, rfl⟩ := h
      simp only [List.length_drop, List.length_cons]
      omega

/-- The text without the line break it starts with, if it starts with one. -/
def dropBreak : List Char → List Char
  | '\n' :: rest => rest
  | '\r' :: '\n' :: rest => rest
  | cs => cs

/-- The text without the blanks and line breaks in front. -/
def dropVoid : List Char → List Char
  | '\n' :: rest => dropVoid rest
  | '\r' :: '\n' :: rest => dropVoid rest
  | c :: rest => if isBlank c then dropVoid rest else c :: rest
  | [] => []

theorem length_dropVoid_le (cs : List Char) : (dropVoid cs).length ≤ cs.length := by
  fun_induction dropVoid cs with
  | case1 rest ih => simp only [List.length_cons]; omega
  | case2 rest ih => simp only [List.length_cons]; omega
  | case3 c rest _ _ _ ih => simp only [List.length_cons]; omega
  | case4 => simp
  | case5 => simp

/-- Whether a text goes on with blanks up to a line break. -/
def endsLine (cs : List Char) : Bool :=
  match cs.dropWhile isBlank with
  | '\n' :: _ => true
  | '\r' :: '\n' :: _ => true
  | _ => false

/-- What follows a closing mark of three, and those of up to two more marks that belong to the
string. -/
def closing? (mark : Char) (cs : List Char) : Option (List Char × List Char) :=
  let marks := (cs.takeWhile (· = mark)).length
  if marks < 3 then none
  else
    let kept := min (marks - 3) 2
    some (List.replicate kept mark, cs.drop (3 + kept))

/-! ### Readers -/

/-- The rest of a string of one line in double quotes. -/
def basicString? (cs : List Char) : Option (List Char × List Char) :=
  match cs with
  | [] => none
  | '"' :: rest => some ([], rest)
  | '\\' :: rest =>
    match _h : escape? rest with
    | none => none
    | some (c, rest) => (basicString? rest).map fun (text, rest) => (c :: text, rest)
  | c :: rest =>
    if isPlain c then (basicString? rest).map fun (text, rest) => (c :: text, rest) else none
termination_by cs.length
decreasing_by
  · have hlen := length_escape? _h
    simp only [List.length_cons]
    omega
  · simp

/-- The rest of a string of several lines in double quotes. -/
def longBasicString? (cs : List Char) : Option (List Char × List Char) :=
  match closing? '"' cs with
  | some close => some close
  | none =>
    match cs with
    | [] => none
    | '\\' :: rest =>
      if endsLine rest then longBasicString? (dropVoid rest)
      else
        match _h : escape? rest with
        | none => none
        | some (c, rest) => (longBasicString? rest).map fun (text, rest) => (c :: text, rest)
    | '\r' :: '\n' :: rest =>
      (longBasicString? rest).map fun (text, rest) => ('\r' :: '\n' :: text, rest)
    | c :: rest =>
      if isPlain c || c = '\n' then
        (longBasicString? rest).map fun (text, rest) => (c :: text, rest)
      else none
termination_by cs.length
decreasing_by
  · have hlen := length_dropVoid_le rest
    simp only [List.length_cons]
    omega
  · have hlen := length_escape? _h
    simp only [List.length_cons]
    omega
  · simp only [List.length_cons]
    omega
  · simp

/-- The rest of a string of one line between apostrophes. -/
def literalString? : List Char → Option (List Char × List Char)
  | [] => none
  | '\'' :: rest => some ([], rest)
  | c :: rest =>
    if isPlain c then (literalString? rest).map fun (text, rest) => (c :: text, rest) else none

/-- The rest of a string of several lines between apostrophes. -/
def longLiteralString? (cs : List Char) : Option (List Char × List Char) :=
  match closing? '\'' cs with
  | some close => some close
  | none =>
    match cs with
    | [] => none
    | '\r' :: '\n' :: rest =>
      (longLiteralString? rest).map fun (text, rest) => ('\r' :: '\n' :: text, rest)
    | c :: rest =>
      if isPlain c || c = '\n' then
        (longLiteralString? rest).map fun (text, rest) => (c :: text, rest)
      else none

/-- A string of one line, from its opening mark on. -/
def shortString? : List Char → Option (List Char × List Char)
  | '"' :: rest => basicString? rest
  | '\'' :: rest => literalString? rest
  | _ => none

/-- A string of any kind, from its opening mark on. -/
def string? : List Char → Option (List Char × List Char)
  | '"' :: '"' :: '"' :: rest => longBasicString? (dropBreak rest)
  | '\'' :: '\'' :: '\'' :: rest => longLiteralString? (dropBreak rest)
  | cs => shortString? cs

end CaptureReport.Toml
