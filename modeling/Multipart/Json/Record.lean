import Multipart.Json.Skipping

/-!
# Reading records

A record is read from an object, whose unknown fields are passed over and
whose known fields may each be given once, or from an array of its fields in
their order.  What is read is gathered in a draft, and the draft becomes the
record when the object ends.
-/

namespace Multipart.Json

/-! ## Scalars of a given type -/

/-- The number as something found where it was not wanted. -/
def Numeral.found : Numeral → Found
  | .integer value => .integer value
  | .floating => .floating

/--
The problem of a value of the wrong type.  Scalars are read to their end, so
a problem inside one comes first; an array or object is not entered.
-/
def mismatch (expected : String) (text : List Char) : Problem :=
  match text with
  | [] => .endOfText
  | '[' :: _ => .wrongType .sequence expected
  | '{' :: _ => .wrongType .map expected
  | '"' :: rest =>
    match readText rest with
    | .error problem => problem
    | .ok found => .wrongType (.text found.value) expected
  | 'n' :: rest => letters "ull" .null rest
  | 't' :: rest => letters "rue" (.boolean true) rest
  | 'f' :: rest => letters "alse" (.boolean false) rest
  | first :: _ =>
    if first = '-' ∨ first.isDigit then
      match readNumber text with
      | .error problem => problem
      | .ok numeral => .wrongType numeral.value.found expected
    else
      .malformed
where
  letters (word : String) (found : Found) (rest : List Char) : Problem :=
    match readWord word.toList rest with
    | .error problem => problem
    | .ok _ => .wrongType found expected

/-- Read a text. -/
def expectText (text : List Char) : Reading String text :=
  match blanks : skipBlank text with
  | [] => .error .endOfText
  | '"' :: rest =>
    match readText rest with
    | .error problem => .error problem
    | .ok found => .ok ((afterBlank () blanks).next found)
  | other => .error (mismatch "a string" other)

/-- Read a text, or the word that stands for its absence. -/
def expectOptionalText (text : List Char) : Reading (Option String) text :=
  match blanks : skipBlank text with
  | 'n' :: rest =>
    match readWord "ull".toList rest with
    | .error problem => .error problem
    | .ok word =>
      .ok ((afterBlank () blanks).follow (word.map fun _ => none))
  | _ =>
    match expectText text with
    | .error problem => .error problem
    | .ok found => .ok (found.map some)

/-- Read a natural number of at most the given number of bits. -/
def expectCount (bits : Nat) (text : List Char) : Reading Nat text :=
  let expected := "u" ++ toString bits
  match blanks : skipBlank text with
  | [] => .error .endOfText
  | first :: rest =>
    if first = '-' ∨ first.isDigit then
      match readNumber (first :: rest) with
      | .error problem => .error problem
      | .ok numeral =>
        match numeral.value with
        | .floating => .error (.wrongType .floating expected)
        | .integer value =>
          if 0 ≤ value ∧ value < Nat.pow 2 bits then
            .ok ((numeral.map fun _ => value.toNat).widen
              (le_of_skipBlank_eq_cons blanks))
          else
            .error (.outOfRange value expected)
    else
      .error (mismatch expected (first :: rest))

/-! ## Records -/

/-- A field of a record that is gathered in a draft. -/
structure Field (Draft : Type) where
  name : String
  /-- Holds when the draft has a value for the field. -/
  isFilled : Draft → Bool
  /-- Read the field's value into the draft. -/
  fill : Draft → (text : List Char) → Reading Draft text

/-- A field whose value is kept by a setter. -/
def Field.of {Draft α : Type} (name : String)
    (isFilled : Draft → Bool)
    (read : (text : List Char) → Reading α text)
    (keep : Draft → α → Draft) : Field Draft where
  name
  isFilled
  fill draft text :=
    match read text with
    | .error problem => .error problem
    | .ok found => .ok (found.map (keep draft))

/-- A record: its name in messages, its fields and how a draft ends. -/
structure Record (Draft α : Type) where
  name : String
  fields : List (Field Draft)
  blank : Draft
  finish : Draft → Except Problem α

/-- Read a key and the colon after it; `none` stands for an unknown key. -/
def readKey {Draft : Type} (fields : List (Field Draft)) (draft : Draft)
    (text : List Char) : Reading (Option (Field Draft)) text :=
  match readText text with
  | .error problem => .error problem
  | .ok key =>
    let field? := fields.find? fun field => field.name = key.value
    match field?.filter (·.isFilled draft) with
    | some field => .error (.duplicateField field.name)
    | none =>
      match colon : skipBlank key.rest with
      | [] => .error .endOfText
      | ':' :: _ => .ok (key.next (afterBlank field? colon))
      | _ => .error .malformed

/-- Read one member of an object, after the opening quote of its key. -/
def readMember {Draft : Type} (fields : List (Field Draft)) (draft : Draft)
    (text : List Char) : Reading Draft text :=
  match readKey fields draft text with
  | .error problem => .error problem
  | .ok key =>
    match key.value with
    | some field =>
      match field.fill draft key.rest with
      | .error problem => .error problem
      | .ok filled => .ok (key.next filled)
    | none =>
      match skipValue key.rest with
      | .error problem => .error problem
      | .ok skipped => .ok (key.follow (skipped.map fun _ => draft))

/-- Come to the opening quote of the next key, past a comma if one is due. -/
def readToKey (isFirst : Bool) : (text : List Char) → Reading Unit text
  | [] => .error .endOfText
  | first :: rest =>
    if isFirst then
      if first = '"' then .ok (.ofFirst () first rest)
      else .error .malformed
    else if first = ',' then
      match blanks : skipBlank rest with
      | [] => .error .endOfText
      | '"' :: _ => .ok ((afterBlank () blanks).behind first)
      | _ => .error .malformed
    else
      .error .malformed

/-- Read the members of an object up to its closing brace. -/
def readMembers {Draft : Type} (fields : List (Field Draft))
    (isFirst : Bool) (draft : Draft) (text : List Char) :
    Reading Draft text :=
  match blanks : skipBlank text with
  | [] => .error .endOfText
  | first :: rest =>
    if first = '}' then
      .ok (afterBlank draft blanks)
    else
      match readToKey isFirst (first :: rest) with
      | .error problem => .error problem
      | .ok key =>
        match readMember fields draft key.rest with
        | .error problem => .error problem
        | .ok found =>
          let member :=
            (key.next found).widen (le_of_skipBlank_eq_cons blanks)
          match readMembers fields false member.value member.rest with
          | .error problem => .error problem
          | .ok tail => .ok (member.next tail)
termination_by text.length
decreasing_by exact member.shorter

/-- Come to the next element of an array, past a comma if one is due. -/
def readToElement (isFirst : Bool) (tooShort : Problem) (text : List Char) :
    Except Problem (NoLonger Unit text) :=
  match blanks : skipBlank text with
  | [] => .error .endOfText
  | first :: rest =>
    if first = ']' then
      .error tooShort
    else if isFirst then
      .ok (.ofNothing () text)
    else if first = ',' then
      match skipBlank rest with
      | [] => .error .endOfText
      | next :: _ =>
        if next = ']' then .error .malformed
        else .ok (afterBlank () blanks).toNoLonger
    else
      .error .malformed

/-- Read one element for each field, and then the end of the array. -/
def readElements {Draft : Type} (tooShort : Nat → Problem) (index : Nat)
    (fields : List (Field Draft)) (draft : Draft) (text : List Char) :
    Reading Draft text :=
  match fields with
  | [] =>
    match blanks : skipBlank text with
    | [] => .error .endOfText
    | first :: _ =>
      if first = ']' then
        .ok (afterBlank draft blanks)
      else
        .error .malformed
  | field :: fields =>
    match readToElement (index = 0) (tooShort index) text with
    | .error problem => .error problem
    | .ok element =>
      match field.fill draft element.rest with
      | .error problem => .error problem
      | .ok filled =>
        match readElements tooShort (index + 1) fields filled.value
            filled.rest with
        | .error problem => .error problem
        | .ok tail => .ok ((filled.next tail).widen element.bound)

namespace Record

/-- Make the record of the draft that was read. -/
def complete {Draft α : Type} (record : Record Draft α)
    {text : List Char} (draft : Shorter Draft text) : Reading α text :=
  match record.finish draft.value with
  | .error problem => .error problem
  | .ok value => .ok (draft.map fun _ => value)

/-- Read a record from an object or from an array. -/
def read {Draft α : Type} (record : Record Draft α) (text : List Char) :
    Reading α text :=
  match blanks : skipBlank text with
  | [] => .error .endOfText
  | first :: rest =>
    if first = '{' then
      match readMembers record.fields true record.blank rest with
      | .error problem => .error problem
      | .ok draft =>
        record.complete ((afterBlank () blanks).next draft)
    else if first = '[' then
      let tooShort index :=
        Problem.tooShort index record.name record.fields.length
      match readElements tooShort 0 record.fields record.blank rest with
      | .error problem => .error problem
      | .ok draft =>
        record.complete ((afterBlank () blanks).next draft)
    else
      .error (mismatch record.name (first :: rest))

end Record

/-- The value of a field that may not be missing. -/
def require {α : Type} (name : String) : Option α → Except Problem α
  | some value => .ok value
  | none => .error (.missingField name)

/-- Read a whole text, which holds one value between blanks. -/
def readDocument {α : Type}
    (read : (text : List Char) → Reading α text) (text : String) :
    Except Problem α :=
  match read text.toList with
  | .error problem => .error problem
  | .ok found =>
    if (skipBlank found.rest).isEmpty then .ok found.value
    else .error .malformed

end Multipart.Json
