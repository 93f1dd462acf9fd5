import Multipart.Json.Record
import Multipart.Json.Writer

/-!
# Reading what was written

A text or a number that was written is read as it was, whatever stands after
it; after a number no character may follow that goes on with it.  An object
is read member by member into a draft, so that a record is read back as soon
as the values of its fields are.
-/

namespace Multipart.Json

/-- Holds when a reading gives a value and leaves the rest of the text. -/
def Gives {α : Type} {text : List Char} (reading : Reading α text)
    (value : α) (rest : List Char) : Prop :=
  ∃ shorter, reading = .ok ⟨value, rest, shorter⟩

theorem skipBlank_cons {character : Char}
    (visible : isBlank character = false) (rest : List Char) :
    skipBlank (character :: rest) = character :: rest :=
  List.dropWhile_cons_of_neg (by simp [visible])

/-! ## Texts -/

theorem hexValue?_hexDigit :
    ∀ value < 16, hexValue? (hexDigit value) = some value := by
  decide

theorem readUnit_hexDigits {value : Nat} (small : value < 256)
    (rest : List Char) :
    Gives (readUnit ('0' :: '0' :: hexDigit (value / 16) ::
      hexDigit (value % 16) :: rest)) value rest := by
  have high := hexValue?_hexDigit (value / 16) (by omega)
  have low := hexValue?_hexDigit (value % 16) (by omega)
  have zero : hexValue? '0' = some 0 := by decide
  have joined : ((0 * 16 + 0) * 16 + value / 16) * 16 + value % 16 =
      value := by
    omega
  refine ⟨by simp; omega, ?_⟩
  simp only [readUnit, high, low, zero, joined]

/-- An escape is read as the character that was escaped. -/
theorem readEscape_control {character : Char}
    (control : character.toNat < 32) (rest : List Char) :
    Gives (readEscape ('u' :: '0' :: '0' ::
      hexDigit (character.toNat / 16) ::
      hexDigit (character.toNat % 16) :: rest)) character rest := by
  obtain ⟨shorter, read⟩ :=
    readUnit_hexDigits (Nat.lt_trans control (by decide)) rest
  have low : isLowSurrogate character.toNat = false := by
    simp only [isLowSurrogate, Bool.and_eq_false_iff, decide_eq_false_iff_not]
    omega
  have high : isHighSurrogate character.toNat = false := by
    simp only [isHighSurrogate, Bool.and_eq_false_iff,
      decide_eq_false_iff_not]
    omega
  refine ⟨Nat.lt_succ_of_lt shorter, ?_⟩
  simp only [readEscape, read, low, high, Bool.false_eq_true, if_false]
  simp only [Shorter.behind, Shorter.widen, Shorter.map, Char.ofNat_toNat]

/-- What follows an escaped character is read on. -/
theorem readCharacters_escapeChar (character : Char) {text : List Char}
    {characters rest : List Char}
    (tail : Gives (readCharacters text) characters rest) :
    Gives (readCharacters (escapeChar character ++ text))
      (character :: characters) rest := by
  rcases tail with ⟨shorter, read⟩
  have escaped {letters : List Char}
      (escape : Gives (readEscape (letters ++ text)) character text) :
      Gives (readCharacters ('\\' :: letters ++ text))
        (character :: characters) rest := by
    rcases escape with ⟨_, escape⟩
    rw [List.cons_append, readCharacters, escape]
    dsimp only
    rw [read]
    exact ⟨_, rfl⟩
  fun_cases escapeChar character with
  | case8 _ control =>
      rw [if_pos control]
      exact escaped (readEscape_control control text)
  | case9 _ visible quote backslash =>
      rw [if_neg visible, List.cons_append, List.nil_append,
        readCharacters.eq_4 _ _ quote backslash, if_neg visible, read]
      exact ⟨_, rfl⟩
  | _ => exact escaped ⟨_, rfl⟩

/-- A text is read as it was before it was escaped. -/
theorem readCharacters_escaped (characters rest : List Char) :
    Gives (readCharacters (characters.flatMap escapeChar ++ '"' :: rest))
      characters rest := by
  induction characters with
  | nil =>
      rw [List.flatMap_nil, List.nil_append, readCharacters]
      exact ⟨_, rfl⟩
  | cons character characters ih =>
      rw [List.flatMap_cons, List.append_assoc]
      exact readCharacters_escapeChar character ih

theorem readText_escaped (text : String) (rest : List Char) :
    Gives (readText (text.toList.flatMap escapeChar ++ '"' :: rest))
      text rest := by
  rcases readCharacters_escaped text.toList rest with ⟨shorter, read⟩
  refine ⟨shorter, ?_⟩
  rw [readText, read]
  simp [Shorter.map, String.ofList_toList]

theorem writeText_append (text : String) (rest : List Char) :
    writeText text ++ rest =
      '"' :: (text.toList.flatMap escapeChar ++ '"' :: rest) := by
  simp [writeText]

theorem expectText_writeText (text : String) (rest : List Char) :
    Gives (expectText (writeText text ++ rest)) text rest := by
  rcases readText_escaped text rest with ⟨shorter, read⟩
  have opened := writeText_append text rest
  rw [opened]
  have visible := skipBlank_cons (show isBlank '"' = false from rfl)
    (text.toList.flatMap escapeChar ++ '"' :: rest)
  rw [expectText]
  split
  · next none => rw [visible] at none; cases none
  · next same =>
      rw [visible] at same
      cases same
      rw [read]
      exact ⟨_, rfl⟩
  · next other => exact absurd visible (other _)

/-- A word is read where it stands. -/
theorem readWord_append (letters rest : List Char) :
    ∃ bound, readWord letters (letters ++ rest) = .ok ⟨(), rest, bound⟩ := by
  induction letters with
  | nil => exact ⟨_, rfl⟩
  | cons letter letters ih =>
      rcases ih with ⟨bound, read⟩
      rw [List.cons_append, readWord, if_pos rfl, read]
      exact ⟨_, rfl⟩

/-- A text is read as it was, and so is its absence. -/
theorem expectOptionalText_writeOptionalText (text? : Option String)
    (rest : List Char) :
    Gives (expectOptionalText (writeOptionalText text? ++ rest)) text?
      rest := by
  cases text? with
  | none =>
      rcases readWord_append "ull".toList rest with ⟨bound, read⟩
      have blanks := skipBlank_cons (show isBlank 'n' = false from rfl)
        ("ull".toList ++ rest)
      have text : writeOptionalText none ++ rest =
          'n' :: ("ull".toList ++ rest) :=
        rfl
      rw [text, expectOptionalText]
      split
      · next same =>
          rw [blanks] at same
          cases same
          rw [read]
          exact ⟨_, rfl⟩
      · next other => exact absurd blanks (other _)
  | some text =>
      rcases expectText_writeText text rest with ⟨shorter, read⟩
      have blanks := skipBlank_cons (show isBlank '"' = false from rfl)
        (text.toList.flatMap escapeChar ++ '"' :: rest)
      rw [← writeText_append] at blanks
      rw [writeOptionalText, expectOptionalText]
      split
      · next same =>
          rw [blanks, writeText_append] at same
          cases same
      · rw [read]
        exact ⟨_, rfl⟩

/-! ## Numbers -/

/-- Holds of a text that does not go on with a number before it. -/
def EndsNumber (text : List Char) : Prop :=
  ∀ character ∈ text.head?,
    character.isDigit = false ∧ character ≠ '.' ∧
      character ≠ 'e' ∧ character ≠ 'E'

theorem isDigit_of_mem_writeCount (value : Nat) :
    ∀ digit ∈ writeCount value, digit.isDigit = true := fun _ member =>
  Nat.isDigit_of_mem_toDigits (by decide) (by decide) member

/-- No number but zero is written with a zero in front. -/
theorem writeCount_ne_zero_cons {value : Nat} (positive : 0 < value)
    (digits : List Char) : writeCount value ≠ '0' :: digits := by
  induction value using Nat.strongRecOn generalizing digits with
  | ind value ih =>
      rw [writeCount]
      rw [Nat.toDigits_eq_if (by decide)]
      split
      · next small =>
          have nonzero :
              ∀ digit < 10, 0 < digit → digit.digitChar ≠ '0' := by
            decide
          intro same
          exact nonzero value small positive (List.cons.inj same).1
      · next large =>
          have smaller := ih (value / 10) (by omega) (by omega)
          intro same
          cases written : writeCount (value / 10) with
          | nil => exact Nat.toDigits_ne_nil written
          | cons first rest =>
              rw [show Nat.toDigits 10 (value / 10) = first :: rest from
                written] at same
              rw [(List.cons.inj same).1] at written
              exact smaller rest written

/-- A number is written as a digit and more; only zero begins with zero. -/
theorem exists_writeCount (value : Nat) :
    ∃ first digits, writeCount value = first :: digits ∧
      first.isDigit = true ∧ (∀ digit ∈ digits, digit.isDigit = true) ∧
      (first = '0' → digits = []) := by
  cases written : writeCount value with
  | nil => exact absurd written Nat.toDigits_ne_nil
  | cons first digits =>
      have all := isDigit_of_mem_writeCount value
      rw [written] at all
      refine ⟨first, digits, rfl, all _ (.head _),
        fun digit member => all digit (.tail _ member), ?_⟩
      rintro rfl
      rcases Nat.eq_zero_or_pos value with rfl | positive
      · exact (List.cons.inj written).2.symm
      · exact absurd written (writeCount_ne_zero_cons positive digits)

theorem leadingDigits_append {digits rest : List Char}
    (all : ∀ digit ∈ digits, digit.isDigit = true)
    (ends : EndsNumber rest) :
    leadingDigits (digits ++ rest) = digits := by
  have none : rest.takeWhile Char.isDigit = [] := by
    cases rest with
    | nil => rfl
    | cons character rest =>
        exact List.takeWhile_cons_of_neg (by simp [(ends character rfl).1])
  rw [leadingDigits, List.takeWhile_append_of_pos all, none,
    List.append_nil]

theorem afterDigits_append {digits rest : List Char}
    (all : ∀ digit ∈ digits, digit.isDigit = true)
    (ends : EndsNumber rest) :
    afterDigits (digits ++ rest) = rest := by
  have whole : rest.dropWhile Char.isDigit = rest := by
    cases rest with
    | nil => rfl
    | cons character rest =>
        exact List.dropWhile_cons_of_neg (by simp [(ends character rfl).1])
  rw [afterDigits, List.dropWhile_append_of_pos all, whole]

/-- The digits that fit 64 bits are all taken into the significand. -/
theorem Scaled.whole_eq {digits : List Char} {start : Nat}
    (fits : Nat.ofDigitChars 10 digits start < UInt64.size) :
    Scaled.whole ⟨start, 0⟩ digits =
      ⟨Nat.ofDigitChars 10 digits start, 0⟩ := by
  induction digits generalizing start with
  | nil => rw [whole, Nat.ofDigitChars_nil]
  | cons digit digits ih =>
      rw [Nat.ofDigitChars_cons, Nat.mul_comm 10 start] at fits ⊢
      have small :
          start * 10 + (digit.toNat - '0'.toNat) < UInt64.size := by
        rw [Nat.ofDigitChars_eq_ofDigitChars_zero] at fits
        refine Nat.lt_of_le_of_lt ?_ fits
        exact Nat.le_trans
          (Nat.le_mul_of_pos_left _ (Nat.pow_pos (by decide)))
          (Nat.le_add_right _ _)
      rw [whole, if_pos rfl, append?, if_pos small]
      exact ih fits

theorem readFraction_of_ends (atEnd : Problem) {text : List Char}
    (ends : EndsNumber text) :
    readFraction atEnd text = .ok (.ofNothing [] text) := by
  unfold readFraction
  split
  · next rest => exact absurd rfl (ends '.' rfl).2.1
  · rfl

theorem readExponent_of_ends (atEnd : Problem) {text : List Char}
    (ends : EndsNumber text) :
    readExponent atEnd text = .ok (.ofNothing none text) := by
  cases text with
  | nil => rfl
  | cons letter rest =>
      have plain := (ends letter rfl).2.2
      rw [readExponent.eq_def]
      exact if_neg (not_or.mpr plain)

/-- Digits with neither point nor exponent are read as they stand. -/
theorem readUnsigned_digits (atEnd : Problem) {first : Char}
    {text : List Char} (digit : first.isDigit = true)
    (zero : first = '0' → leadingDigits text = [])
    (ends : EndsNumber (afterDigits text)) :
    Gives (readUnsigned atEnd (first :: text))
      { whole := first :: leadingDigits text } (afterDigits text) := by
  have numeric : ¬ (¬ first.isDigit = true ∨
      (first = '0' ∧ ¬ (leadingDigits text).isEmpty = true)) := by
    rintro (other | ⟨same, more⟩)
    · exact other digit
    · rw [zero same] at more
      exact more rfl
  rw [readUnsigned, if_neg numeric, readFraction_of_ends atEnd ends]
  dsimp only
  rw [readExponent_of_ends atEnd (by exact ends)]
  exact ⟨_, rfl⟩

/-- The digits of a number within 64 bits tell it. -/
theorem numeral_writeCount {value : Nat} (fits : value < UInt64.size) :
    Literal.numeral { whole := writeCount value } =
      .ok (.integer value) := by
  have back : Nat.ofDigitChars 10 (writeCount value) 0 = value :=
    Nat.ofDigitChars_ten_toDigits
  have whole := Scaled.whole_eq
    (Nat.lt_of_le_of_lt (Nat.le_of_eq back) fits)
  rw [back] at whole
  have scaled : Literal.scaled { whole := writeCount value } =
      ⟨value, 0⟩ := by
    rw [Literal.scaled, whole]
    rfl
  rw [Literal.numeral, scaled]
  rfl

/-- A number is read as it was written. -/
theorem readNumber_writeCount {value : Nat} (fits : value < UInt64.size)
    {rest : List Char} (ends : EndsNumber rest) :
    Gives (readNumber (writeCount value ++ rest)) (.integer value) rest := by
  obtain ⟨first, digits, written, digit, all, zero⟩ :=
    exists_writeCount value
  have leading := leadingDigits_append all ends
  have after := afterDigits_append all ends
  have given := readUnsigned_digits .endOfText digit
    (fun same => leading.trans (zero same)) (after.symm ▸ ends)
  rw [leading, after] at given
  rcases given with ⟨shorter, read⟩
  have positive : ∀ inner, first :: (digits ++ rest) ≠ '-' :: inner := by
    rintro inner ⟨⟩
    exact absurd digit (by decide)
  have numeral := numeral_writeCount fits
  rw [written] at numeral ⊢
  rw [List.cons_append, readNumber, readLiteral.eq_2 _ _ positive, read]
  dsimp only
  rw [numeral]
  exact ⟨_, rfl⟩

/-- A number of the given bits is read as it was written. -/
theorem expectCount_writeCount {bits value : Nat}
    (fits : value < Nat.pow 2 bits)
    (small : bits ≤ 64) {rest : List Char} (ends : EndsNumber rest) :
    Gives (expectCount bits (writeCount value ++ rest)) value rest := by
  have bound : value < UInt64.size :=
    Nat.lt_of_lt_of_le fits (Nat.pow_le_pow_right (by decide) small)
  have given := readNumber_writeCount bound ends
  rcases exists_writeCount value with ⟨first, digits, written, digit, -⟩
  rw [written, List.cons_append] at given ⊢
  rcases given with ⟨shorter, read⟩
  have visible : isBlank first = false := by
    rw [Bool.eq_false_iff]
    intro blank
    simp only [isBlank, Bool.or_eq_true, decide_eq_true_eq] at blank
    rcases blank with ((rfl | rfl) | rfl) | rfl <;>
      exact absurd digit (by decide)
  have blanks := skipBlank_cons visible (digits ++ rest)
  rw [expectCount]
  split
  · next none => rw [blanks] at none; cases none
  · next same =>
      rw [blanks] at same
      cases same
      rw [if_pos (.inr digit), read]
      dsimp only
      rw [if_pos ⟨Int.natCast_nonneg _, Int.ofNat_lt.mpr fits⟩]
      exact ⟨_, rfl⟩

/-! ## Records -/

variable {Draft α : Type}

/--
Members of an object that take one draft to another, each through a field
that was still to be filled.
-/
inductive Fills (fields : List (Field Draft)) :
    Draft → List (String × List Char) → Draft → Prop where
  | nil {draft : Draft} : Fills fields draft [] draft
  | cons {draft filled last : Draft} {field : Field Draft}
      {name : String} {written : List Char}
      {members : List (String × List Char)}
      (known : fields.find? (fun field => field.name = name) = some field)
      (empty : field.isFilled draft = false)
      (fill : ∀ {rest}, EndsNumber rest →
        Gives (field.fill draft (written ++ rest)) filled rest)
      (tail : Fills fields filled members last) :
      Fills fields draft ((name, written) :: members) last

/-- A field keeps the value that is read for it. -/
theorem Field.fill_of {β : Type} {name : String} {isFilled : Draft → Bool}
    {read : (text : List Char) → Reading β text}
    {keep : Draft → β → Draft} {draft : Draft} {text rest : List Char}
    {value : β} (gives : Gives (read text) value rest) :
    Gives ((Field.of name isFilled read keep).fill draft text)
      (keep draft value) rest := by
  rcases gives with ⟨shorter, equation⟩
  rw [Field.of]
  dsimp only
  rw [equation]
  exact ⟨shorter, rfl⟩

theorem endsNumber_comma (rest : List Char) : EndsNumber (',' :: rest) := by
  rintro character ⟨⟩
  decide

theorem endsNumber_brace (rest : List Char) :
    EndsNumber ('\x7d' :: rest) := by
  rintro character ⟨⟩
  decide

theorem readKey_name {fields : List (Field Draft)} {draft : Draft}
    {field : Field Draft} {name : String}
    (known : fields.find? (fun field => field.name = name) = some field)
    (empty : field.isFilled draft = false) (rest : List Char) :
    Gives (readKey fields draft
        (name.toList.flatMap escapeChar ++ '"' :: ':' :: rest))
      (some field) rest := by
  rcases readText_escaped name (':' :: rest) with ⟨shorter, read⟩
  have visible := skipBlank_cons (show isBlank ':' = false from rfl) rest
  have fresh : (some field).filter (·.isFilled draft) = none := by
    rw [Option.filter_some, empty]
    rfl
  rw [readKey]
  rw [read]
  dsimp only
  rw [known, fresh]
  dsimp only
  split
  · next none => rw [visible] at none; cases none
  · next same =>
      rw [visible] at same
      cases same
      exact ⟨_, rfl⟩
  · next other => exact absurd visible (other _)

/-- A member is read into the field of its name. -/
theorem readMember_written {fields : List (Field Draft)}
    {draft filled : Draft} {field : Field Draft} {name : String}
    {written rest : List Char}
    (known : fields.find? (fun field => field.name = name) = some field)
    (empty : field.isFilled draft = false)
    (fill : Gives (field.fill draft (written ++ rest)) filled rest) :
    Gives (readMember fields draft (name.toList.flatMap escapeChar ++
        '"' :: ':' :: (written ++ rest))) filled rest := by
  rcases readKey_name known empty (written ++ rest) with ⟨shorter, key⟩
  rcases fill with ⟨fewer, fill⟩
  rw [readMember, key]
  dsimp only
  rw [fill]
  exact ⟨_, rfl⟩

/-- The members that follow the first, each behind a comma. -/
def writeFurther (members : List (String × List Char)) : List Char :=
  members.flatMap fun member =>
    ',' :: writeText member.1 ++ ':' :: member.2

theorem writeMembers_cons (member : String × List Char)
    (members : List (String × List Char)) :
    writeMembers (member :: members) =
      writeText member.1 ++ ':' :: member.2 ++ writeFurther members := by
  induction members generalizing member with
  | nil => simp [writeMembers, writeFurther]
  | cons next members ih =>
      rw [writeMembers, ih next]
      · simp [writeFurther]
      · exact List.cons_ne_nil _ _

theorem endsNumber_writeFurther (members : List (String × List Char))
    (rest : List Char) :
    EndsNumber (writeFurther members ++ '\x7d' :: rest) := by
  cases members with
  | nil => exact endsNumber_brace rest
  | cons member members => exact endsNumber_comma _

/-- A key is come to, its member is read, and then the members after it. -/
theorem readMembers_member {fields : List (Field Draft)} {isFirst : Bool}
    {draft filled last : Draft} {first : Char}
    {text key further rest : List Char} (visible : isBlank first = false)
    (more : first ≠ '\x7d')
    (toKey : Gives (readToKey isFirst (first :: text)) () key)
    (member : Gives (readMember fields draft key) filled further)
    (tail : Gives (readMembers fields false filled further) last rest) :
    Gives (readMembers fields isFirst draft (first :: text)) last rest := by
  rcases toKey with ⟨_, toKey⟩
  rcases member with ⟨_, member⟩
  rcases tail with ⟨_, tail⟩
  have blanks := skipBlank_cons visible text
  rw [readMembers.eq_def]
  split
  · next none => rw [blanks] at none; cases none
  · next same =>
      rw [blanks] at same
      cases same
      rw [if_neg more, toKey]
      dsimp only
      rw [member]
      dsimp only [Shorter.next, Shorter.widen]
      rw [tail]
      exact ⟨_, rfl⟩

theorem readToKey_comma (text : List Char) :
    Gives (readToKey false (',' :: '"' :: text)) () text := by
  have visible := skipBlank_cons (show isBlank '"' = false from rfl) text
  rw [readToKey, if_neg Bool.false_ne_true, if_pos rfl]
  split
  · next none => rw [visible] at none; cases none
  · next same =>
      rw [visible] at same
      cases same
      exact ⟨_, rfl⟩
  · next other => exact absurd visible (other _)

theorem readMembers_brace (fields : List (Field Draft)) (isFirst : Bool)
    (draft : Draft) (rest : List Char) :
    Gives (readMembers fields isFirst draft ('\x7d' :: rest))
      draft rest := by
  have blanks := skipBlank_cons (show isBlank '\x7d' = false from rfl) rest
  rw [readMembers.eq_def]
  split
  · next none => rw [blanks] at none; cases none
  · next same =>
      rw [blanks] at same
      cases same
      rw [if_pos rfl]
      exact ⟨_, rfl⟩

/-- The members after the first are read up to the closing brace. -/
theorem readMembers_writeFurther {fields : List (Field Draft)}
    {draft last : Draft} {members : List (String × List Char)}
    (fills : Fills fields draft members last) (rest : List Char) :
    Gives (readMembers fields false draft
      (writeFurther members ++ '\x7d' :: rest)) last rest := by
  induction fills with
  | nil => exact readMembers_brace fields false _ rest
  | @cons draft filled last field name written members known empty fill
      tail ih =>
      have text : writeFurther ((name, written) :: members) ++
          '\x7d' :: rest =
        ',' :: '"' :: (name.toList.flatMap escapeChar ++ '"' :: ':' ::
          (written ++ (writeFurther members ++ '\x7d' :: rest))) := by
        simp [writeFurther, writeText]
      rw [text]
      exact readMembers_member rfl (by decide) (readToKey_comma _)
        (readMember_written known empty
          (fill (endsNumber_writeFurther members rest))) ih

/-- An object that was written is read into the draft that it fills. -/
theorem readMembers_writeMembers {fields : List (Field Draft)}
    {draft last : Draft} {members : List (String × List Char)}
    (fills : Fills fields draft members last) (rest : List Char) :
    Gives (readMembers fields true draft
      (writeMembers members ++ '\x7d' :: rest)) last rest := by
  cases fills with
  | nil => exact readMembers_brace fields true _ rest
  | @cons _ filled _ field name written members known empty fill tail =>
      have text : writeMembers ((name, written) :: members) ++
          '\x7d' :: rest =
        '"' :: (name.toList.flatMap escapeChar ++ '"' :: ':' ::
          (written ++ (writeFurther members ++ '\x7d' :: rest))) := by
        simp [writeMembers_cons, writeText]
      rw [text]
      exact readMembers_member rfl (by decide) ⟨_, rfl⟩
        (readMember_written known empty
          (fill (endsNumber_writeFurther members rest)))
        (readMembers_writeFurther tail rest)

/-- A record is read back from the members that fill its fields. -/
theorem Record.read_writeObject (record : Record Draft α)
    {last : Draft} {members : List (String × List Char)}
    (fills : Fills record.fields record.blank members last) {value : α}
    (finish : record.finish last = .ok value) (rest : List Char) :
    Gives (record.read (writeObject members ++ rest)) value rest := by
  rcases readMembers_writeMembers fills rest with ⟨shorter, read⟩
  have blanks := skipBlank_cons (show isBlank '\x7b' = false from rfl)
    (writeMembers members ++ '\x7d' :: rest)
  have text : writeObject members ++ rest =
      '\x7b' :: (writeMembers members ++ '\x7d' :: rest) := by
    simp [writeObject]
  rw [text, Record.read]
  split
  · next none => rw [blanks] at none; cases none
  · next same =>
      rw [blanks] at same
      cases same
      rw [if_pos rfl, read]
      dsimp only [Record.complete, Shorter.next, Shorter.widen]
      rw [finish]
      exact ⟨_, rfl⟩

/-- A document that holds a written value and nothing else is read back. -/
theorem readDocument_of_gives {read : (text : List Char) → Reading α text}
    {written : List Char} {value : α}
    (gives : Gives (read (written ++ [])) value []) :
    readDocument read (String.ofList written) = .ok value := by
  have same : (String.ofList written).toList = written ++ [] := by
    rw [String.toList_ofList, List.append_nil]
  rw [← same] at gives
  rcases gives with ⟨shorter, read⟩
  rw [readDocument, read]
  rfl

end Multipart.Json
