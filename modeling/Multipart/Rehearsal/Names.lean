import Multipart.Store

/-!
# Names in a rehearsal

A script cannot know the names a store will give, so it calls the ids and the
tags by the order in which they are given: `upload-1`, `etag-1` and so on.
Such a name means the store's once the store has given it, and itself before.

The store's own names begin with a mark, a character that no text of the
script has.  So none of them is equal to a text of the script, and a text is
put as the script would put it by leaving the mark out.
-/

namespace Multipart.Rehearsal

/-- The text after a word it begins with. -/
def after? : (word text : List Char) → Option (List Char)
  | [], text => some text
  | _ :: _, [] => none
  | letter :: word, character :: text =>
    if letter = character then after? word text else none

/-- The value of a text that consists of digits. -/
def count? (text : List Char) : Option Nat :=
  if text.all Char.isDigit then
    some (text.foldl
      (fun value digit => value * 10 + (digit.toNat - '0'.toNat)) 0)
  else
    none

/-- The number in a name that a script gives to one of `given` names. -/
def numberIn? (word : String) (given : Nat) (name : String) : Option Nat :=
  match after? word.toList name.toList with
  | none => none
  | some digits =>
    match count? digits with
    | none => none
    | some number =>
      if 0 < number ∧ number ≤ given ∧
          NameSupply.numbered word number = name then
        some number
      else
        none

/-- The id that a script means by a name. -/
def idOfName (store : Store) (name : String) : UploadId :=
  match numberIn? NameSupply.idWord store.idsGiven name with
  | some number => store.idOf number
  | none => ⟨name⟩

/-- The tag that a script means by a name. -/
def tagOfName (store : Store) (name : String) : EntityTag :=
  match numberIn? NameSupply.tagWord store.tagsGiven name with
  | some number => store.tagOf number
  | none => ⟨name⟩

/-- A receipt in which the tag is a name of the script. -/
def receiptOfName (store : Store) (receipt : Receipt) : Receipt :=
  { receipt with tag := tagOfName store receipt.tag.text }

/-! ## Marks -/

/-- The mark of a number; these are the private characters of a plane. -/
def markOf (number : Nat) : Char :=
  Char.ofNat (0x100000 + number)

/-- The first mark up to a number that no text has, or the one below all. -/
def unusedMark (texts : List String) : (number : Nat) → Char
  | 0 => markOf 0
  | number + 1 =>
    let mark := markOf (number + 1)
    if texts.all fun text => text.toList.all (· ≠ mark) then mark
    else unusedMark texts number

/-- The mark by which names are told from the texts of a script. -/
def markFor (texts : List String) : String :=
  String.singleton (unusedMark texts 0xFFFD)

/-- A store whose names are told from the texts of a script. -/
def storeFor (texts : List String) : Store :=
  { names := .counted (markFor texts) }

/-- A text as the script would put it. -/
def spoken (mark text : String) : String :=
  String.ofList (text.toList.filter (· ∉ mark.toList))

end Multipart.Rehearsal
