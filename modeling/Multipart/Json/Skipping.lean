import Multipart.Json.Reader

/-!
# Skipping a value

A field that no record asks for is passed over.  Its value still has to be
JSON, but nothing is asked of what it says: a text may hold half a surrogate
pair, a number may have any size, and values may be nested to any depth.
-/

namespace Multipart.Json

/-- Skip an escape, after its backslash. -/
def skipEscape : (text : List Char) → Reading Unit text
  | [] => .error .endOfText
  | 'u' :: rest =>
    match readUnit rest with
    | .error problem => .error problem
    | .ok unit => .ok ((unit.map fun _ => ()).behind 'u')
  | letter :: rest =>
    if (shortEscape? letter).isSome then
      .ok (.ofFirst () letter rest)
    else
      .error .malformed

/-- Skip the characters of a text up to its closing quote. -/
def skipCharacters (text : List Char) : Reading Unit text :=
  match text with
  | [] => .error .endOfText
  | '"' :: rest => .ok (.ofFirst () '"' rest)
  | '\\' :: rest =>
    match skipEscape rest with
    | .error problem => .error problem
    | .ok escape =>
      match skipCharacters escape.rest with
      | .error problem => .error problem
      | .ok tail => .ok ((escape.next tail).behind '\\')
  | character :: rest =>
    if character.toNat < 32 then
      .error .malformed
    else
      match skipCharacters rest with
      | .error problem => .error problem
      | .ok tail => .ok (tail.behind character)
termination_by text.length
decreasing_by
  · exact Nat.lt_succ_of_lt escape.shorter
  · exact Nat.lt_succ_self _

/-- Skip a value that is neither an array nor an object. -/
def skipScalar (text : List Char) : Reading Unit text :=
  match text with
  | [] => .error .endOfText
  | first :: rest =>
    match first with
    | '"' =>
      match skipCharacters rest with
      | .error problem => .error problem
      | .ok tail => .ok (tail.behind '"')
    | 'n' => skipLetters "ull".toList rest
    | 't' => skipLetters "rue".toList rest
    | 'f' => skipLetters "alse".toList rest
    | first =>
      match readLiteral .malformed (first :: rest) with
      | .error problem => .error problem
      | .ok literal => .ok (literal.map fun _ => ())
where
  skipLetters {first : Char} (letters : List Char) (rest : List Char) :
      Reading Unit (first :: rest) :=
    match readWord letters rest with
    | .error problem => .error problem
    | .ok word => .ok (word.strictlyBehind first)

/-- What encloses the value that is being skipped. -/
inductive Bracket where
  | array
  | object
deriving DecidableEq

/-- The character that closes a bracket. -/
def Bracket.closing : Bracket → Char
  | .array => ']'
  | .object => '}'

/-- Skip a key and the colon after it. -/
def skipKey (text : List Char) : Reading Unit text :=
  match blanks : skipBlank text with
  | [] => .error .endOfText
  | '"' :: rest =>
    match skipCharacters rest with
    | .error problem => .error problem
    | .ok key =>
      match colon : skipBlank key.rest with
      | [] => .error .endOfText
      | ':' :: _ =>
        .ok ((afterBlank () blanks).next (key.next (afterBlank () colon)))
      | _ => .error .malformed
  | _ => .error .malformed

/-- Come to the next value inside a bracket, past the key in an object. -/
def skipToValue (bracket : Bracket) (text : List Char) :
    Except Problem (NoLonger Unit text) :=
  match bracket with
  | .array => .ok (.ofNothing () text)
  | .object =>
    match skipKey text with
    | .error problem => .error problem
    | .ok key => .ok key.toNoLonger

/-- Where a reader that skips stands. -/
inductive Standing where
  /-- A value comes next. -/
  | before
  /-- A value has just ended. -/
  | after
deriving DecidableEq

/-- One step of a reader that skips. -/
inductive Advance (text : List Char) where
  /-- The outermost value has ended. -/
  | finished
  /-- More follows, inside the brackets that are open, innermost first. -/
  | onward (standing : Standing) (brackets : List Bracket)
      (tail : Shorter Unit text)

/-- Step into a bracket that has just been opened, or past an empty one. -/
def advanceInto (bracket : Bracket) (brackets : List Bracket)
    (text : List Char) :
    Except Problem (NoLonger (Standing × List Bracket) text) :=
  match inside : skipBlank text with
  | [] => .error .endOfText
  | next :: _ =>
    if next = bracket.closing then
      .ok (afterBlank (.after, brackets) inside).toNoLonger
    else
      match skipToValue bracket text with
      | .error problem => .error problem
      | .ok value => .ok (value.map fun _ => (.before, bracket :: brackets))

/-- Step over one token; every step shortens the text. -/
def advance (standing : Standing) (brackets : List Bracket)
    (text : List Char) : Except Problem (Advance text) :=
  match standing, brackets with
  | .after, [] => .ok .finished
  | .after, bracket :: outer =>
    match blanks : skipBlank text with
    | [] => .error .endOfText
    | first :: rest =>
      if first = ',' then
        match skipToValue bracket rest with
        | .error problem => .error problem
        | .ok value =>
          .ok (.onward .before (bracket :: outer)
            ((afterBlank () blanks).follow value))
      else if first = bracket.closing then
        .ok (.onward .after outer (afterBlank () blanks))
      else
        .error .malformed
  | .before, brackets =>
    match blanks : skipBlank text with
    | [] => .error .endOfText
    | first :: rest =>
      let bracket? : Option Bracket :=
        if first = '[' then some .array
        else if first = '{' then some .object
        else none
      match bracket? with
      | some bracket =>
        match advanceInto bracket brackets rest with
        | .error problem => .error problem
        | .ok inside =>
          .ok (.onward inside.value.1 inside.value.2
            ((afterBlank () blanks).follow (inside.map fun _ => ())))
      | none =>
        match skipScalar (first :: rest) with
        | .error problem => .error problem
        | .ok scalar =>
          .ok (.onward .after brackets
            (scalar.widen (le_of_skipBlank_eq_cons blanks)))

/--
Skip up to the end of the outermost value.  Nesting is bounded by the length
of the text alone.
-/
def skipNested (standing : Standing) (brackets : List Bracket)
    (text : List Char) : Except Problem (NoLonger Unit text) :=
  match advance standing brackets text with
  | .error problem => .error problem
  | .ok .finished => .ok (.ofNothing () text)
  | .ok (.onward standing brackets tail) =>
    match skipNested standing brackets tail.rest with
    | .error problem => .error problem
    | .ok later => .ok (tail.follow later).toNoLonger
termination_by text.length
decreasing_by exact tail.shorter

/-- Skip one value. -/
def skipValue (text : List Char) : Except Problem (NoLonger Unit text) :=
  skipNested .before [] text

end Multipart.Json
