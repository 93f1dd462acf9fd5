/-!
# Writing JSON

JSON is written without blanks.  In a text the quote and the backslash are
escaped, five controls have letters of their own, and the other controls are
written as four hexadecimal digits; every other character stands for itself.
-/

namespace Multipart.Json

/-- A hexadecimal digit, lower case. -/
def hexDigit (value : Nat) : Char :=
  if value < 10 then Char.ofNat ('0'.toNat + value)
  else Char.ofNat ('a'.toNat + (value - 10))

/-- One character as it stands inside a written text. -/
def escapeChar (character : Char) : List Char :=
  match character with
  | '"' => ['\\', '"']
  | '\\' => ['\\', '\\']
  | '\x08' => ['\\', 'b']
  | '\x0c' => ['\\', 'f']
  | '\n' => ['\\', 'n']
  | '\r' => ['\\', 'r']
  | '\t' => ['\\', 't']
  | _ =>
    if character.toNat < 32 then
      ['\\', 'u', '0', '0', hexDigit (character.toNat / 16),
        hexDigit (character.toNat % 16)]
    else
      [character]

/-- A text between its quotes. -/
def writeText (text : String) : List Char :=
  '"' :: text.toList.flatMap escapeChar ++ ['"']

/-- A text, or the word for its absence. -/
def writeOptionalText : Option String → List Char
  | some text => writeText text
  | none => "null".toList

/-- A natural number in decimal digits. -/
def writeCount (value : Nat) : List Char :=
  Nat.toDigits 10 value

/-- The members of an object, with commas between them. -/
def writeMembers : List (String × List Char) → List Char
  | [] => []
  | [(name, value)] => writeText name ++ ':' :: value
  | (name, value) :: members =>
    writeText name ++ ':' :: value ++ ',' :: writeMembers members

/-- An object with its members in the given order. -/
def writeObject (members : List (String × List Char)) : List Char :=
  '\x7b' :: writeMembers members ++ ['\x7d']

end Multipart.Json
