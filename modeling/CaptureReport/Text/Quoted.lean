import CaptureReport.Text.Hidden

/-!
# Quoted texts

Messages quote the texts they complain about, so that a stray blank or control shows. A **quoted**
text stands between double quotes; inside, the quote and the backslash take a backslash in front,
line feed, carriage return, tab and NUL have a letter of their own, every other hidden character is
written `\u` with its code point in braces, and all else stands for itself. An apostrophe needs no
escape.
-/

namespace CaptureReport.Text

/-- How one character is written inside quotes. -/
def escape (c : Char) : List Char :=
  if c = '"' then ['\\', '"']
  else if c = '\\' then ['\\', '\\']
  else if c = '\n' then ['\\', 'n']
  else if c = '\r' then ['\\', 'r']
  else if c = '\t' then ['\\', 't']
  else if c = '\x00' then ['\\', '0']
  else if isHidden c then '\\' :: 'u' :: '\x7b' :: (Nat.toDigits 16 c.toNat ++ ['\x7d'])
  else [c]

/-- The text between double quotes, with every character escaped as far as it has to be. -/
def quote (s : String) : String :=
  String.ofList ('"' :: (s.toList.flatMap escape ++ ['"']))

end CaptureReport.Text
