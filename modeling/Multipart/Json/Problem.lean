import Multipart.Text.Quoted

/-!
# What is wrong with a JSON text

A reader reports the first problem it meets from left to right.  A text may
end too early, may not be JSON at all, or may be JSON that does not describe
the value asked for; only problems of the last kind have a message.
-/

namespace Multipart.Json

/-- What a reader found where it wanted something else. -/
inductive Found where
  | null
  | boolean (value : Bool)
  | integer (value : Int)
  | floating
  | text (value : String)
  | sequence
  | map
deriving DecidableEq

/-- The words for what was found. -/
def Found.describe : Found → String
  | .null => "null"
  | .boolean true => "boolean `true`"
  | .boolean false => "boolean `false`"
  | .integer value => "integer `" ++ toString value ++ "`"
  | .floating => "floating point"
  | .text value => "string " ++ Text.quoted value
  | .sequence => "sequence"
  | .map => "map"

/-- The first problem of a text. -/
inductive Problem where
  /-- The text ends inside a value. -/
  | endOfText
  /-- The text is not JSON. -/
  | malformed
  /-- A value is of another type than the one expected. -/
  | wrongType (found : Found) (expected : String)
  /-- An integer lies outside the type expected. -/
  | outOfRange (value : Int) (expected : String)
  /-- A record written as an array has too few elements. -/
  | tooShort (length : Nat) (record : String) (fields : Nat)
  /-- A record lacks a field. -/
  | missingField (name : String)
  /-- A record has a field twice. -/
  | duplicateField (name : String)
deriving DecidableEq

/-- The three classes of problems. -/
inductive ProblemClass where
  | data
  | grammar
  | ending
deriving DecidableEq

namespace Problem

/-- The class a problem belongs to. -/
def classOf : Problem → ProblemClass
  | .endOfText => .ending
  | .malformed => .grammar
  | _ => .data

/-- The message of a problem with the data, in words. -/
def message? : Problem → Option String
  | .endOfText => none
  | .malformed => none
  | .wrongType found expected =>
    some ("invalid type: " ++ found.describe ++ ", expected " ++ expected)
  | .outOfRange value expected =>
    some ("invalid value: integer `" ++ toString value ++
      "`, expected " ++ expected)
  | .tooShort length record fields =>
    some ("invalid length " ++ toString length ++ ", expected " ++ record ++
      " with " ++ toString fields ++
      (if fields = 1 then " element" else " elements"))
  | .missingField name => some ("missing field `" ++ name ++ "`")
  | .duplicateField name => some ("duplicate field `" ++ name ++ "`")

end Problem

end Multipart.Json
