import CaptureReport.Text.Decimal
import CaptureReport.Toml.Value

/-!
# Bare scalars

Booleans, numbers, dates and times are written without quotes. Each is one **token**: words joined
by blanks, up to the end of the line, a comment or a mark that arranges values. What a token denotes
is told from the whole of it; a token that fits none of the forms denotes nothing.

* Integers are decimal, with an optional sign and no leading zero, or hexadecimal, octal or binary
  behind `0x`, `0o` and `0b`. They have to fit in 128 bits.
* Floats are decimal, with a fraction, an exponent, or both, or one of `inf` and `nan`. They have to
  fit in double precision.
* A single underscore may stand between two digits of a number.
* Dates are checked against the calendar; seconds may be left out, and a leap second is a second.

The layout of a number is told apart from its value. A number that is laid out well and has no value
is **unreadable**: it does not fit, or there are no digits behind the mark of its base, or other
characters come among its decimal digits once there has been an underscore. The underscores of a
decimal integer accordingly stand between digits of any base.
-/

namespace CaptureReport.Toml

/-- The blanks of a line are the space and the tab. -/
def isBlank (c : Char) : Bool :=
  c = ' ' || c = '\t'

/-! ### Digits -/

/-- The value of a hexadecimal digit, in either case. -/
def hexValue (c : Char) : Nat :=
  if c.isDigit then c.toNat - '0'.toNat
  else if 'a' ≤ c then c.toNat - 'a'.toNat + 10
  else c.toNat - 'A'.toNat + 10

def isHexDigit (c : Char) : Bool :=
  c.isDigit || ('a' ≤ c && c ≤ 'f') || ('A' ≤ c && c ≤ 'F')

def isOctalDigit (c : Char) : Bool :=
  '0' ≤ c && c ≤ '7'

def isBinaryDigit (c : Char) : Bool :=
  c = '0' || c = '1'

/-- The number that digits denote in a base. -/
def ofBase (base : Nat) (cs : List Char) : Nat :=
  cs.foldl (fun n c => base * n + hexValue c) 0

/-- A sign, as whether it is a minus, and what follows it. -/
def splitSign : List Char → Bool × List Char
  | '-' :: rest => (true, rest)
  | '+' :: rest => (false, rest)
  | cs => (false, cs)

/-- Whether a number starts with a zero that adds nothing to it. -/
def hasLeadingZero : List Char → Bool
  | '0' :: _ :: _ => true
  | _ => false

/-! ### Underscores -/

/-- Whether every underscore stands between two digits. -/
def isSpaced (isDigit : Char → Bool) (cs : List Char) : Bool :=
  cs.head? ≠ some '_' && cs.getLast? ≠ some '_' &&
    (cs.zip cs.tail).all fun (a, b) => (a ≠ '_' || isDigit b) && (b ≠ '_' || isDigit a)

/-- The number without its underscores. -/
def dropUnderscores (cs : List Char) : List Char :=
  cs.filter (· ≠ '_')

/-! ### Integers -/

/-- Whether an integer fits in 128 bits, with or without a sign. -/
def fits : Int → Bool
  | .ofNat n => n < Nat.pow 2 128
  | .negSucc n => n < Nat.pow 2 127

/-- A number in decimal digits with a sign. -/
def signed (negative : Bool) (n : Nat) : Int :=
  if negative then -(n : Int) else n

/-- What an integer comes to. -/
def ofInt (n : Int) : Value :=
  if fits n then .integer n else .unreadable

/-- What the digits behind the mark of a base come to. -/
def based? (base : Nat) (isDigit : Char → Bool) (cs : List Char) : Option Value :=
  if cs.all (fun c => isDigit c || c = '_') && isSpaced isDigit cs then
    some (if cs.isEmpty then .unreadable else ofInt (ofBase base (dropUnderscores cs)))
  else none

/-- What a whole number in decimals comes to, given without its sign. Behind the first underscore
there may be anything but a space. -/
def whole? (negative : Bool) (cs : List Char) : Option Value :=
  let later := cs.dropWhile Char.isDigit
  if !cs.isEmpty && !hasLeadingZero cs && (later.isEmpty || later.head? = some '_') &&
      !later.contains ' ' && isSpaced isHexDigit cs then
    match Text.numeral? (dropUnderscores cs) with
    | some n => some (ofInt (signed negative n))
    | none => some .unreadable
  else none

/-! ### Floats -/

/-- The mark of an exponent. -/
def isPowerMark (c : Char) : Bool :=
  c = 'e' || c = 'E'

/-- Whether `m · 10 ^ e` is rounded to infinity in double precision. The number of decimal places
before the point settles all but a few exponents. -/
def overflows (m : Nat) (e : Int) : Bool :=
  let places : Int := (Nat.toDigits 10 m).length + e
  if m = 0 || places < 309 then false
  else if 310 < places then true
  else
    let bound := Nat.pow 2 1024 - Nat.pow 2 970
    if 0 ≤ e then bound ≤ m * Nat.pow 10 e.toNat else bound * Nat.pow 10 (-e).toNat ≤ m

/-- The size of a float as `m · 10 ^ e`, given by the digits before the point, the point with the
digits behind it, and the exponent with its mark; the latter two need not be there. -/
def magnitude? (units fraction power : List Char) : Option (Nat × Int) := do
  let _ ← Text.numeral? units
  let parts := fraction.tail
  unless fraction.isEmpty do
    let _ ← Text.numeral? parts
  let (negative, digits) := splitSign power.tail
  let e ← if power.isEmpty then some 0 else Text.numeral? digits
  return (Text.ofDigits (units ++ parts), signed negative e - parts.length)

/-- What a float comes to, given without its sign; `literal` is the whole token. -/
def float? (literal cs : List Char) : Option Value := do
  let mantissa := cs.takeWhile (!isPowerMark ·)
  let units := mantissa.takeWhile (· ≠ '.')
  guard (!hasLeadingZero units && isSpaced Char.isDigit cs)
  let (m, e) ← magnitude? (dropUnderscores units)
    (dropUnderscores (mantissa.dropWhile (· ≠ '.')))
    (dropUnderscores (cs.dropWhile (!isPowerMark ·)))
  return if overflows m e then .unreadable else .float (String.ofList literal)

/-! ### Numbers -/

/-- What a number in decimals comes to. -/
def decimal? (cs : List Char) : Option Value :=
  let (negative, unsigned) := splitSign cs
  if unsigned = ['i', 'n', 'f'] || unsigned = ['n', 'a', 'n'] then
    some (.float (String.ofList cs))
  else if unsigned.any fun c => c = '.' || isPowerMark c then float? cs unsigned
  else whole? negative unsigned

/-- What a number comes to. -/
def number? (cs : List Char) : Option Value :=
  match cs with
  | '0' :: 'x' :: rest => based? 16 isHexDigit rest
  | '0' :: 'o' :: rest => based? 8 isOctalDigit rest
  | '0' :: 'b' :: rest => based? 2 isBinaryDigit rest
  | _ => decimal? cs

/-! ### Dates and times -/

/-- The value of a fixed number of digits, and what follows them. -/
def fixedDigits? (count : Nat) (cs : List Char) : Option (Nat × List Char) := do
  let n ← Text.numeral? (cs.take count)
  guard (count ≤ cs.length)
  return (n, cs.drop count)

def isLeapYear (year : Nat) : Bool :=
  year % 4 = 0 && (year % 100 ≠ 0 || year % 400 = 0)

def daysInMonth (year month : Nat) : Nat :=
  if month = 2 then (if isLeapYear year then 29 else 28)
  else if month = 4 || month = 6 || month = 9 || month = 11 then 30
  else 31

/-- What follows a character, if the text starts with it. -/
def dropChar? (c : Char) : List Char → Option (List Char)
  | d :: rest => if d = c then some rest else none
  | [] => none

/-- What follows a date. -/
def afterDate? (cs : List Char) : Option (List Char) := do
  let (year, cs) ← fixedDigits? 4 cs
  let (month, cs) ← fixedDigits? 2 (← dropChar? '-' cs)
  let (day, cs) ← fixedDigits? 2 (← dropChar? '-' cs)
  guard (1 ≤ month && month ≤ 12 && 1 ≤ day && day ≤ daysInMonth year month)
  return cs

/-- What follows the fraction of a second, which need not be there. -/
def afterFraction? : List Char → Option (List Char)
  | '.' :: rest =>
    if (rest.takeWhile Char.isDigit).isEmpty then none else some (rest.dropWhile Char.isDigit)
  | cs => some cs

/-- What follows a time of day. -/
def afterTime? (cs : List Char) : Option (List Char) := do
  let (hour, cs) ← fixedDigits? 2 cs
  let (minute, cs) ← fixedDigits? 2 (← dropChar? ':' cs)
  guard (hour ≤ 23 && minute ≤ 59)
  match cs with
  | ':' :: cs =>
    let (second, cs) ← fixedDigits? 2 cs
    guard (second ≤ 60)
    afterFraction? cs
  | cs => return cs

/-- Whether a text is the offset of a time zone. -/
def isOffset (cs : List Char) : Bool :=
  match cs with
  | ['Z'] | ['z'] => true
  | sign :: cs =>
    let rest := do
      guard (sign = '+' || sign = '-')
      let (hour, cs) ← fixedDigits? 2 cs
      let (minute, cs) ← fixedDigits? 2 (← dropChar? ':' cs)
      guard (hour ≤ 23 && minute ≤ 59)
      return cs
    rest = some []
  | [] => false

/-- Whether a token denotes a date, a time of day, or a date with a time of day. -/
def isMoment (cs : List Char) : Bool :=
  match afterDate? cs with
  | some [] => true
  | some (separator :: rest) =>
    (separator = 'T' || separator = 't' || separator = ' ') &&
      match afterTime? rest with
      | some [] => true
      | some offset => isOffset offset
      | none => false
  | none => afterTime? cs = some []

/-! ### Tokens -/

/-- Whether a token ends at a character: a mark that arranges values, the start of a comment, or the
end of a line. -/
def isDelimiter (c : Char) : Bool :=
  c = '=' || c = ',' || c = '[' || c = ']' || c = '\x7b' || c = '\x7d' || c = '#' || c = '\n' ||
    c = '\r'

/-- The token at the start of a text, without the blanks behind it, and what follows those. -/
def splitToken (cs : List Char) : List Char × List Char :=
  let token := cs.takeWhile (!isDelimiter ·)
  ((token.reverse.dropWhile isBlank).reverse, cs.dropWhile (!isDelimiter ·))

/-- Whether a quote opens behind a blank: that is a string and no part of a token. -/
def opensQuote (cs : List Char) : Bool :=
  (cs.zip cs.tail).any fun (a, b) => isBlank a && (b = '"' || b = '\'')

/-- What a token denotes. -/
def scalar? (cs : List Char) : Option Value :=
  if cs = ['t', 'r', 'u', 'e'] then some (.boolean true)
  else if cs = ['f', 'a', 'l', 's', 'e'] then some (.boolean false)
  else if isMoment cs then some (.moment (String.ofList cs))
  else if opensQuote cs then none
  else number? cs

end CaptureReport.Toml
