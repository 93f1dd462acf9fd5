/-!
# Blanks

The characters that count as blank space, and texts without the blanks at
their ends.  Beyond the ASCII blanks these are the next-line control and the
space, line and paragraph separators.
-/

namespace Multipart.Text

/-- The ranges of blank scalar values, in ascending order. -/
def blankRanges : List (Nat × Nat) :=
  [(9, 13), (32, 32), (133, 133), (160, 160), (5760, 5760), (8192, 8202),
    (8232, 8233), (8239, 8239), (8287, 8287), (12288, 12288)]

/-- Holds for a character that is blank space. -/
def isBlank (character : Char) : Bool :=
  let value := character.toNat
  blankRanges.any fun range => range.1 ≤ value && value ≤ range.2

/-- A text without the blanks at its start. -/
def dropBlank (text : List Char) : List Char :=
  text.dropWhile isBlank

/-- A text without the blanks at its two ends. -/
def trimBlank (text : String) : String :=
  String.ofList (dropBlank (dropBlank text.toList).reverse).reverse

end Multipart.Text
