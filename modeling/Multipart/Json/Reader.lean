import Multipart.Json.Problem

/-!
# Reading JSON from left to right

Every reader takes the characters that remain and either reports the first
problem it meets or gives a value together with strictly fewer characters.
The strict decrease is part of the result, so readers that call one another
terminate by the length of what remains.
-/

namespace Multipart.Json

/-- A value read from a text, and the shorter text that follows it. -/
structure Shorter (α : Type) (text : List Char) where
  value : α
  rest : List Char
  shorter : rest.length < text.length

/-- The outcome of a reader on a text. -/
abbrev Reading (α : Type) (text : List Char) : Type :=
  Except Problem (Shorter α text)

/-- A value read from a text, and a text no longer than it that follows. -/
structure NoLonger (α : Type) (text : List Char) where
  value : α
  rest : List Char
  bound : rest.length ≤ text.length

namespace Shorter

/-- A value for which the first character of a text was read. -/
def ofFirst {α : Type} (value : α) (character : Char)
    (rest : List Char) : Shorter α (character :: rest) :=
  ⟨value, rest, Nat.lt_succ_self _⟩

/-- What was read from a text was also read from any text at least as long. -/
def widen {α : Type} {inner outer : List Char}
    (fits : inner.length ≤ outer.length) (result : Shorter α inner) :
    Shorter α outer :=
  ⟨result.value, result.rest, Nat.lt_of_lt_of_le result.shorter fits⟩

/-- What was read from a text was also read from it behind a character. -/
def behind {α : Type} {text : List Char} (character : Char)
    (result : Shorter α text) : Shorter α (character :: text) :=
  result.widen (Nat.le_succ _)

/-- What follows what was read is read next, from the same text. -/
def next {α β : Type} {text : List Char} (before : Shorter α text)
    (result : Shorter β before.rest) : Shorter β text :=
  result.widen (Nat.le_of_lt before.shorter)

/-- What follows may also be nothing. -/
def follow {α β : Type} {text : List Char} (before : Shorter α text)
    (result : NoLonger β before.rest) : Shorter β text :=
  ⟨result.value, result.rest,
    Nat.lt_of_le_of_lt result.bound before.shorter⟩

/-- A strictly shorter text is no longer. -/
def toNoLonger {α : Type} {text : List Char} (result : Shorter α text) :
    NoLonger α text :=
  ⟨result.value, result.rest, Nat.le_of_lt result.shorter⟩

/-- Change the value that was read. -/
def map {α β : Type} {text : List Char} (convert : α → β)
    (result : Shorter α text) : Shorter β text :=
  ⟨convert result.value, result.rest, result.shorter⟩

end Shorter

namespace NoLonger

/-- A value for which nothing was read. -/
def ofNothing {α : Type} (value : α) (text : List Char) :
    NoLonger α text :=
  ⟨value, text, Nat.le_refl _⟩

/-- What was read from a text was also read from it behind a character. -/
def behind {α : Type} {text : List Char} (character : Char)
    (result : NoLonger α text) : NoLonger α (character :: text) :=
  ⟨result.value, result.rest, Nat.le_succ_of_le result.bound⟩

/-- Behind a character, no more than the text leaves strictly less. -/
def strictlyBehind {α : Type} {text : List Char} (character : Char)
    (result : NoLonger α text) : Shorter α (character :: text) :=
  ⟨result.value, result.rest, Nat.lt_succ_of_le result.bound⟩

/-- What follows what was read is read next, from the same text. -/
def next {α β : Type} {text : List Char} (before : NoLonger α text)
    (result : NoLonger β before.rest) : NoLonger β text :=
  ⟨result.value, result.rest, Nat.le_trans result.bound before.bound⟩

/-- Change the value that was read. -/
def map {α β : Type} {text : List Char} (convert : α → β)
    (result : NoLonger α text) : NoLonger β text :=
  ⟨convert result.value, result.rest, result.bound⟩

end NoLonger

/-! ## Blanks and digits -/

/-- The four characters that may stand between tokens. -/
def isBlank (character : Char) : Bool :=
  character = ' ' || character = '\n' || character = '\t' ||
    character = '\r'

/-- The text after its leading blanks. -/
def skipBlank (text : List Char) : List Char :=
  text.dropWhile isBlank

theorem length_skipBlank_le (text : List Char) :
    (skipBlank text).length ≤ text.length :=
  (List.dropWhile_sublist _).length_le

/-- What follows the first visible character is shorter than the text. -/
theorem lt_of_skipBlank_eq_cons
    {text : List Char} {character : Char} {rest : List Char}
    (equality : skipBlank text = character :: rest) :
    rest.length < text.length := by
  have bound := length_skipBlank_le text
  rw [equality] at bound
  exact bound

/-- The visible character and what follows it are no longer than the text. -/
theorem le_of_skipBlank_eq_cons
    {text : List Char} {character : Char} {rest : List Char}
    (equality : skipBlank text = character :: rest) :
    (character :: rest).length ≤ text.length :=
  equality ▸ length_skipBlank_le text

/-- What follows the first visible character, as what was read after it. -/
def afterBlank {α : Type} (value : α)
    {text : List Char} {character : Char} {rest : List Char}
    (equality : skipBlank text = character :: rest) :
    Shorter α text :=
  ⟨value, rest, lt_of_skipBlank_eq_cons equality⟩

/-- The value of a hexadecimal digit of either case. -/
def hexValue? (character : Char) : Option Nat :=
  if '0' ≤ character ∧ character ≤ '9' then
    some (character.toNat - '0'.toNat)
  else if 'a' ≤ character ∧ character ≤ 'f' then
    some (character.toNat - 'a'.toNat + 10)
  else if 'A' ≤ character ∧ character ≤ 'F' then
    some (character.toNat - 'A'.toNat + 10)
  else
    none

/-- Read the given letters. -/
def readWord : (letters : List Char) → (text : List Char) →
    Except Problem (NoLonger Unit text)
  | [], text => .ok (.ofNothing () text)
  | _ :: _, [] => .error .endOfText
  | letter :: letters, character :: text =>
    if letter = character then
      match readWord letters text with
      | .error problem => .error problem
      | .ok word => .ok (word.behind character)
    else
      .error .malformed

/-! ## Texts -/

/-- The number of bytes of a text in UTF-8. -/
def byteLength (text : List Char) : Nat :=
  text.foldl (fun length character => length + character.utf8Size) 0

/--
Read the four hexadecimal digits of an escaped unit.  The text has ended when
fewer than four bytes are left.
-/
def readUnit : (text : List Char) → Reading Nat text
  | first :: second :: third :: fourth :: rest =>
    match hexValue? first, hexValue? second, hexValue? third,
        hexValue? fourth with
    | some a, some b, some c, some d =>
      .ok ⟨((a * 16 + b) * 16 + c) * 16 + d, rest, by simp; omega⟩
    | _, _, _, _ => .error .malformed
  | short =>
    if byteLength short < 4 then .error .endOfText else .error .malformed

/-- The character that an escape of one letter stands for. -/
def shortEscape? : Char → Option Char
  | '"' => some '"'
  | '\\' => some '\\'
  | '/' => some '/'
  | 'b' => some '\x08'
  | 'f' => some '\x0c'
  | 'n' => some '\n'
  | 'r' => some '\r'
  | 't' => some '\t'
  | _ => none

def isLowSurrogate (unit : Nat) : Bool :=
  0xDC00 ≤ unit && unit ≤ 0xDFFF

def isHighSurrogate (unit : Nat) : Bool :=
  0xD800 ≤ unit && unit ≤ 0xDBFF

/-- The character that a pair of surrogates stands for. -/
def joinSurrogates (high low : Nat) : Char :=
  Char.ofNat ((high - 0xD800) * 0x400 + (low - 0xDC00) + 0x10000)

/-- Read the second unit of a surrogate pair, after the first. -/
def readLowSurrogate (high : Nat) : (text : List Char) → Reading Char text
  | [] => .error .endOfText
  | ['\\'] => .error .endOfText
  | '\\' :: 'u' :: rest =>
    match readUnit rest with
    | .error problem => .error problem
    | .ok unit =>
      if isLowSurrogate unit.value then
        .ok ((unit.map (joinSurrogates high)).widen (by simp; omega))
      else
        .error .malformed
  | _ => .error .malformed

/-- Read an escape, after its backslash; surrogates must come in pairs. -/
def readEscape : (text : List Char) → Reading Char text
  | [] => .error .endOfText
  | 'u' :: rest =>
    match readUnit rest with
    | .error problem => .error problem
    | .ok unit =>
      if isLowSurrogate unit.value then
        .error .malformed
      else if isHighSurrogate unit.value then
        match readLowSurrogate unit.value unit.rest with
        | .error problem => .error problem
        | .ok character =>
          .ok ((unit.next character).behind 'u')
      else
        .ok ((unit.map Char.ofNat).behind 'u')
  | letter :: rest =>
    match shortEscape? letter with
    | some character => .ok (.ofFirst character letter rest)
    | none => .error .malformed

/-- Read the characters of a text up to its closing quote. -/
def readCharacters (text : List Char) : Reading (List Char) text :=
  match text with
  | [] => .error .endOfText
  | '"' :: rest => .ok (.ofFirst [] '"' rest)
  | '\\' :: rest =>
    match readEscape rest with
    | .error problem => .error problem
    | .ok escape =>
      match readCharacters escape.rest with
      | .error problem => .error problem
      | .ok tail =>
        let tail := tail.map (escape.value :: ·)
        .ok ((escape.next tail).behind '\\')
  | character :: rest =>
    if character.toNat < 32 then
      .error .malformed
    else
      match readCharacters rest with
      | .error problem => .error problem
      | .ok tail =>
        .ok ((tail.map (character :: ·)).behind character)
termination_by text.length
decreasing_by
  · exact Nat.lt_succ_of_lt escape.shorter
  · exact Nat.lt_succ_self _

/-- Read a text, after its opening quote. -/
def readText (text : List Char) : Reading String text :=
  match readCharacters text with
  | .error problem => .error problem
  | .ok characters => .ok (characters.map String.ofList)

/-! ## Numbers -/

/-- The digits a text begins with. -/
def leadingDigits (text : List Char) : List Char :=
  text.takeWhile Char.isDigit

/-- The text after the digits it begins with. -/
def afterDigits (text : List Char) : List Char :=
  text.dropWhile Char.isDigit

theorem length_afterDigits_le (text : List Char) :
    (afterDigits text).length ≤ text.length :=
  (List.dropWhile_sublist _).length_le

/-- A value for which the digits a text begins with were read. -/
def NoLonger.ofDigits {α : Type} (value : α) (text : List Char) :
    NoLonger α text :=
  ⟨value, afterDigits text, length_afterDigits_le text⟩

/-- The value of a list of digits. -/
def digitsValue (digits : List Char) : Nat :=
  digits.foldl
    (fun value digit => value * 10 + (digit.toNat - '0'.toNat)) 0

/-- The parts of a written number. -/
structure Literal where
  negative : Bool := false
  whole : List Char
  fraction : List Char := []
  exponent : Option Int := none

/--
Read a point and the digits after it, if there is a point.  Where the text
ends instead of a digit, `atEnd` is the problem to report.
-/
def readFraction (atEnd : Problem) :
    (text : List Char) → Except Problem (NoLonger (List Char) text)
  | '.' :: rest =>
    if (leadingDigits rest).isEmpty then
      .error (if rest.isEmpty then atEnd else .malformed)
    else
      .ok ((NoLonger.ofDigits (leadingDigits rest) rest).behind '.')
  | text => .ok (.ofNothing [] text)

/-- Read the digits of an exponent, after its sign. -/
def readExponentDigits (atEnd : Problem) (negative : Bool)
    (text : List Char) : Except Problem (NoLonger (Option Int) text) :=
  if (leadingDigits text).isEmpty then
    .error (if text.isEmpty then atEnd else .malformed)
  else
    let size : Int := digitsValue (leadingDigits text)
    .ok (.ofDigits (some (if negative then -size else size)) text)

/-- Read an exponent, if the text begins with its letter. -/
def readExponent (atEnd : Problem) (text : List Char) :
    Except Problem (NoLonger (Option Int) text) :=
  match text with
  | [] => .ok (.ofNothing none [])
  | letter :: rest =>
    if letter = 'e' ∨ letter = 'E' then
      match rest with
      | '+' :: digits =>
        match readExponentDigits atEnd false digits with
        | .error problem => .error problem
        | .ok exponent => .ok ((exponent.behind '+').behind letter)
      | '-' :: digits =>
        match readExponentDigits atEnd true digits with
        | .error problem => .error problem
        | .ok exponent => .ok ((exponent.behind '-').behind letter)
      | digits =>
        match readExponentDigits atEnd false digits with
        | .error problem => .error problem
        | .ok exponent => .ok (exponent.behind letter)
    else
      .ok (.ofNothing none (letter :: rest))

/-- Read a number without a sign; no digit follows a zero in front. -/
def readUnsigned (atEnd : Problem) :
    (text : List Char) → Reading Literal text
  | [] => .error atEnd
  | first :: text =>
    if ¬ first.isDigit ∨
        (first = '0' ∧ ¬ (leadingDigits text).isEmpty) then
      .error .malformed
    else
      match readFraction atEnd (afterDigits text) with
      | .error problem => .error problem
      | .ok fraction =>
        match readExponent atEnd fraction.rest with
        | .error problem => .error problem
        | .ok exponent =>
          let literal : Literal :=
            { whole := first :: leadingDigits text
              fraction := fraction.value
              exponent := exponent.value }
          let digits := NoLonger.ofDigits () text
          .ok (((digits.next (fraction.next exponent)).strictlyBehind
            first).map fun _ => literal)

/-- Read a number from its first character on. -/
def readLiteral (atEnd : Problem) : (text : List Char) → Reading Literal text
  | '-' :: rest =>
    match readUnsigned atEnd rest with
    | .error problem => .error problem
    | .ok literal =>
      .ok ((literal.map ({ · with negative := true })).behind '-')
  | text => readUnsigned atEnd text

/-- A number as far as a reader of integers tells them apart. -/
inductive Numeral where
  /-- An integer within 64 bits. -/
  | integer (value : Int)
  /-- Any other number; minus zero is one. -/
  | floating
deriving DecidableEq

/-- A decimal number as a significand within 64 bits and a power of ten. -/
structure Scaled where
  significand : Nat := 0
  exponent : Int := 0
deriving DecidableEq

namespace Scaled

/-- The significand with one more digit, if it stays within 64 bits. -/
def append? (scaled : Scaled) (digit : Char) : Option Nat :=
  let significand := scaled.significand * 10 + (digit.toNat - '0'.toNat)
  if significand < UInt64.size then some significand else none

/-- Take the digits before the point; those that do not fit only scale. -/
def whole : Scaled → List Char → Scaled
  | scaled, [] => scaled
  | scaled, digit :: digits =>
    match if scaled.exponent = 0 then scaled.append? digit else none with
    | some significand => whole { scaled with significand } digits
    | none => whole { scaled with exponent := scaled.exponent + 1 } digits

/-- Take the digits after the point until one does not fit. -/
def fraction : Scaled → List Char → Scaled
  | scaled, [] => scaled
  | scaled, digit :: digits =>
    match scaled.append? digit with
    | some significand =>
      fraction ⟨significand, scaled.exponent - 1⟩ digits
    | none => scaled

/-- A number rounded to 53 significant bits, ties to even. -/
def roundSignificand (value : Nat) : Nat :=
  let unit := Nat.pow 2 (value.log2 - 52)
  let quotient := value / unit
  let remainder := value % unit
  if 2 * remainder < unit ∨
      (2 * remainder = unit ∧ quotient % 2 = 0) then
    quotient * unit
  else
    (quotient + 1) * unit

/-- Holds when the number rounds to a finite one of double precision. -/
def isFinite (scaled : Scaled) : Bool :=
  scaled.significand = 0 || scaled.exponent < 0 ||
    (scaled.exponent ≤ 308 &&
      roundSignificand scaled.significand *
        roundSignificand (Nat.pow 10 scaled.exponent.toNat) <
          Nat.pow 2 1024 - Nat.pow 2 970)

end Scaled

namespace Literal

/-- The digits of a number and the power of ten that scales them. -/
def scaled (literal : Literal) : Scaled :=
  let digits :=
    (Scaled.whole {} literal.whole).fraction literal.fraction
  { digits with
    exponent := digits.exponent + literal.exponent.getD 0 }

/--
The number that is written.  It is an integer when neither point nor exponent
is written and the value fits 64 bits; a number beyond double precision is
none at all.
-/
def numeral (literal : Literal) : Except Problem Numeral :=
  let scaled := literal.scaled
  if literal.fraction.isEmpty ∧ literal.exponent.isNone ∧
      scaled.exponent = 0 then
    if literal.negative then
      if scaled.significand = 0 ∨
          UInt64.size / 2 < scaled.significand then
        .ok .floating
      else
        .ok (.integer (-scaled.significand))
    else
      .ok (.integer scaled.significand)
  else if scaled.isFinite then
    .ok .floating
  else
    .error .malformed

end Literal

/-- Read a number and tell what it is. -/
def readNumber (text : List Char) : Reading Numeral text :=
  match readLiteral .endOfText text with
  | .error problem => .error problem
  | .ok literal =>
    match literal.value.numeral with
    | .error problem => .error problem
    | .ok numeral => .ok (literal.map fun _ => numeral)

end Multipart.Json
