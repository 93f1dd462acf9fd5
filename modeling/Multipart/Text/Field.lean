/-!
# Text set in a field

A text can be cut to a number of characters and then padded to a width.  The
three alignments differ in where the padding goes; a centred text is filled
with asterisks, and the larger half of an odd padding goes to its right.
-/

namespace Multipart.Text

/-- Where a text stands in a field that is wider than it. -/
inductive Alignment where
  | left
  | right
  | center
deriving DecidableEq

/-- A field: its least width, the place of the text and its largest length. -/
structure Field where
  width : Nat := 0
  alignment : Alignment := .left
  precision : Option Nat := none

namespace Field

/-- The text without the characters beyond the field's precision. -/
def cut (field : Field) (text : List Char) : List Char :=
  match field.precision with
  | none => text
  | some limit => text.take limit

/-- The text between the padding that its alignment asks for. -/
def pad (field : Field) (text : List Char) : List Char :=
  let missing := field.width - text.length
  match field.alignment with
  | .left => text ++ List.replicate missing ' '
  | .right => List.replicate missing ' ' ++ text
  | .center =>
    List.replicate (missing / 2) '*' ++ text ++
      List.replicate (missing - missing / 2) '*'

/-- A text set in a field. -/
def set (field : Field) (text : String) : String :=
  String.ofList (field.pad (field.cut text.toList))

end Field

end Multipart.Text
