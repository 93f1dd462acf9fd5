import Multipart.Text.Invisible

/-!
# Quoted text in messages

A message shows a text between quotes.  The quote and the backslash are
escaped, four controls have letters of their own, and every other invisible
character is written by its number in braces.
-/

namespace Multipart.Text

/-- The digits of a number in base sixteen, lower case, without padding. -/
def hexadecimal (value : Nat) : List Char :=
  Nat.toDigits 16 value

/-- One character as it stands between quotes. -/
def quoteChar (character : Char) : List Char :=
  match character with
  | '"' => ['\\', '"']
  | '\\' => ['\\', '\\']
  | '\n' => ['\\', 'n']
  | '\r' => ['\\', 'r']
  | '\t' => ['\\', 't']
  | '\x00' => ['\\', '0']
  | _ =>
    if isInvisible character then
      ['\\', 'u', '\x7b'] ++ hexadecimal character.toNat ++ ['\x7d']
    else
      [character]

/-- A text between quotes. -/
def quoted (text : String) : String :=
  String.ofList ('"' :: text.toList.flatMap quoteChar ++ ['"'])

end Multipart.Text
