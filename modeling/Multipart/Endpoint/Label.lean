/-!
# Labels of host names

The name of a host consists of labels with dots between them.  A bucket that
can be a label becomes the first one of its endpoint; other parts of its name
are told by their distance from the end.
-/

namespace Multipart

/-- Holds for a letter or digit of ASCII, or a hyphen. -/
def isLabelCharacter (character : Char) : Bool :=
  character.isAlphanum || character = '-'

/-- Holds for a text that can be one label of a host name. -/
def isHostLabel (text : List Char) : Bool :=
  text.head? ≠ some '-' && !text.isEmpty && text.length ≤ 63 &&
    text.all isLabelCharacter

/-- Holds for labels separated by dots. -/
def isHostName (text : List Char) : Bool :=
  (text.splitOn '.').all isHostLabel

/-- Holds for a bucket that can be the first label of a host name. -/
def isHostBucket (bucket : List Char) : Bool :=
  let isEnd (character : Option Char) : Bool :=
    character.any fun character => character.isLower || character.isDigit
  3 ≤ bucket.length && bucket.length ≤ 63 && isEnd bucket.head? &&
    isEnd bucket.getLast? &&
      bucket.all fun character =>
        character.isLower || character.isDigit || character = '-'

/-- The characters between two distances from the end of an ASCII text. -/
def fromEnd (text : List Char) (start stop : Nat) : List Char :=
  if stop ≤ text.length ∧ text.all (·.toNat < 128) then
    (text.drop (text.length - stop)).take (stop - start)
  else
    []

/-- Holds for an ASCII text that ends in a suffix. -/
def endsIn (text : List Char) (suffix : String) : Bool :=
  fromEnd text 0 suffix.length = suffix.toList

end Multipart
