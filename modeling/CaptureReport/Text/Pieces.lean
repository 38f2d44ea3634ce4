/-!
# Pieces of a text

Paths, file names and lists of numbers are texts with a separator in them. A separator at an end, or
next to another one, has an empty **piece** on that side, so there is always one piece more than
there are separators.
-/

namespace CaptureReport.Text

/-- The pieces between the separators of a text. -/
def pieces (separator : Char) (text : String) : List String :=
  (text.toList.splitOn separator).map String.ofList

end CaptureReport.Text
