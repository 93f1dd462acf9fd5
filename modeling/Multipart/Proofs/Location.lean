import Mathlib.Data.List.TakeWhile
import Multipart.Location

/-!
# Reading and writing locations

A text is read as a location if and only if it is the scheme, a bucket
without slashes, a slash, and a rest that is more than slashes; the key is
that rest without the slashes at its beginning.  So a location is read back
from its written form if and only if its bucket is a bucket that can be read
and its key is one that nothing is dropped from.  A location that was built
from a pair need not be of this kind, but one that was read always is.  The
main statement is `read_exactly`.
-/

namespace Multipart

/-- A text without the slashes at its beginning. -/
def dropSlashes (text : String) : String :=
  String.ofList (text.toList.dropWhile (· = '/'))

/-- What a text ends with that does not end with a slash. -/
theorem dropFinalSlash_of_not_mem {text : String}
    (plain : '/' ∉ text.toList) : dropFinalSlash text = text := by
  rw [dropFinalSlash]
  split
  · rename_i kept reversed
    refine absurd ?_ plain
    rw [← List.mem_reverse, reversed]
    exact List.mem_cons_self
  · rfl

theorem dropSlashes_eq_empty_iff {text : String} :
    dropSlashes text = "" ↔ ∀ character ∈ text.toList, character = '/' := by
  rw [dropSlashes, ← String.toList_inj, String.toList_ofList]
  change List.dropWhile _ _ = [] ↔ _
  simp [List.dropWhile_eq_nil_iff]

/-- No slash is left at the beginning. -/
theorem head?_dropSlashes (text : String) :
    (dropSlashes text).toList.head? ≠ some '/' := by
  rw [dropSlashes, String.toList_ofList]
  intro slash
  have head := List.head?_dropWhile_not
    (fun character => decide (character = '/')) text.toList
  rw [slash] at head
  simp at head

/-- Nothing is dropped from a text that does not begin with a slash. -/
theorem dropSlashes_of_head? {text : String}
    (plain : text.toList.head? ≠ some '/') : dropSlashes text = text := by
  have kept : text.toList.dropWhile (· = '/') = text.toList := by
    cases characters : text.toList with
    | nil => rfl
    | cons first others =>
        rw [characters] at plain
        exact List.dropWhile_cons_of_neg (by simpa using plain)
  rw [dropSlashes, kept, String.ofList_toList]

namespace Location

/-- Holds when a text is the scheme, a bucket, a slash and a rest. -/
structure Spells (text bucket rest : String) : Prop where
  written : text = "s3://" ++ bucket ++ "/" ++ rest
  named : bucket ≠ ""
  unslashed : '/' ∉ bucket.toList
  /-- The rest is more than slashes. -/
  keyed : ∃ character ∈ rest.toList, character ≠ '/'

/-- Holds of a location that can be read. -/
structure IsPlain (location : Location) : Prop where
  named : location.bucket.text ≠ ""
  unslashed : '/' ∉ location.bucket.text.toList
  keyed : location.key.text ≠ ""
  begins : location.key.text.toList.head? ≠ some '/'

/-! ## Reading -/

theorem afterScheme?_eq_some {characters rest : List Char} :
    afterScheme? characters = some rest ↔
      characters = "s3://".toList ++ rest := by
  constructor
  · intro found
    rw [afterScheme?.eq_def] at found
    split at found
    · cases found
      rfl
    · cases found
  · rintro rfl
    rfl

/-- What is read from the scheme, a bucket, a slash and a rest. -/
theorem parse_written {bucket rest : String}
    (unslashed : '/' ∉ bucket.toList) :
    parse ("s3://" ++ bucket ++ "/" ++ rest) =
      if bucket = "" ∨ dropSlashes rest = "" then .error .bucketAndKey
      else .ok ⟨⟨bucket⟩, ⟨dropSlashes rest⟩⟩ := by
  have scheme :
      afterScheme? ("s3://" ++ bucket ++ "/" ++ rest).toList =
        some (bucket.toList ++ '/' :: rest.toList) := by
    rw [afterScheme?_eq_some]
    simp [String.toList_append]
  have others : ∀ character ∈ bucket.toList,
      decide (character ≠ '/') = true := by
    intro character member
    exact decide_eq_true fun slash => unslashed (slash ▸ member)
  have front :
      (bucket.toList ++ '/' :: rest.toList).takeWhile (· ≠ '/') =
        bucket.toList := by
    rw [List.takeWhile_append_of_pos others, List.takeWhile_cons_of_neg]
    · exact List.append_nil _
    · decide
  have back :
      (bucket.toList ++ '/' :: rest.toList).dropWhile (· ≠ '/') =
        '/' :: rest.toList := by
    rw [List.dropWhile_append_of_pos others, List.dropWhile_cons_of_neg]
    decide
  rw [parse, scheme]
  dsimp only
  rw [back, front]
  dsimp only
  rw [String.ofList_toList]
  change (if (ofPair bucket (dropSlashes rest)).isEmpty then _
    else Except.ok (ofPair bucket (dropSlashes rest))) = _
  have kept : ofPair bucket (dropSlashes rest) =
      ⟨⟨bucket⟩, ⟨dropSlashes rest⟩⟩ := by
    rw [ofPair, Bucket.ofText, dropFinalSlash_of_not_mem unslashed]
  rw [kept, isEmpty]
  simp only [Bool.or_eq_true, String.isEmpty_iff]

/-- A text that is read is the scheme, a bucket, a slash and a rest. -/
theorem written_of_parse {text : String} {location : Location}
    (parsed : parse text = .ok location) :
    ∃ bucket rest, text = "s3://" ++ bucket ++ "/" ++ rest ∧
      '/' ∉ bucket.toList := by
  rw [parse] at parsed
  split at parsed
  · cases parsed
  · rename_i after found
    rw [afterScheme?_eq_some] at found
    split at parsed
    · cases parsed
    · rename_i slash path back
      have stops := List.head?_dropWhile_not
        (fun character => decide (character ≠ '/')) after
      rw [back] at stops
      obtain rfl : slash = '/' := by simpa using stops
      have whole :
          after = after.takeWhile (· ≠ '/') ++ '/' :: path := by
        rw [← back]
        exact List.takeWhile_append_dropWhile.symm
      refine ⟨String.ofList (after.takeWhile (· ≠ '/')),
        String.ofList path, ?_, ?_⟩
      · rw [← String.toList_inj, found]
        simpa [String.toList_append] using whole
      · intro member
        rw [String.toList_ofList] at member
        have others := List.mem_takeWhile_imp member
        simp at others

/--
A text is read if and only if it is the scheme, a bucket, a slash and a rest
that is more than slashes, and its location is then this bucket and the rest
without the slashes at its beginning.
-/
theorem parse_eq_ok_iff {text : String} {location : Location} :
    parse text = .ok location ↔
      ∃ bucket rest, Spells text bucket rest ∧
        location = ⟨⟨bucket⟩, ⟨dropSlashes rest⟩⟩ := by
  have more (rest : String) : dropSlashes rest ≠ "" ↔
      ∃ character ∈ rest.toList, character ≠ '/' := by
    rw [Ne, dropSlashes_eq_empty_iff]
    simp
  constructor
  · intro parsed
    obtain ⟨bucket, rest, rfl, unslashed⟩ := written_of_parse parsed
    rw [parse_written unslashed] at parsed
    split at parsed
    · cases parsed
    · rename_i full
      rw [not_or] at full
      cases parsed
      exact ⟨bucket, rest,
        ⟨rfl, full.1, unslashed, (more rest).mp full.2⟩, rfl⟩
  · rintro ⟨bucket, rest, ⟨rfl, named, unslashed, keyed⟩, rfl⟩
    rw [parse_written unslashed, if_neg]
    exact not_or.mpr ⟨named, (more rest).mpr keyed⟩

/-! ## Reading what was written -/

/-- Whatever is read can be read again. -/
theorem isPlain_of_parse {text : String} {location : Location}
    (parsed : parse text = .ok location) : location.IsPlain := by
  obtain ⟨bucket, rest, spells, rfl⟩ := parse_eq_ok_iff.mp parsed
  refine ⟨spells.named, spells.unslashed, ?_, head?_dropSlashes rest⟩
  obtain ⟨character, member, other⟩ := spells.keyed
  exact fun empty => other (dropSlashes_eq_empty_iff.mp empty _ member)

/-- A plain location is read back from its written form. -/
theorem IsPlain.parse_display {location : Location}
    (plain : location.IsPlain) : parse location.display = .ok location := by
  rw [display, parse_written plain.unslashed,
    dropSlashes_of_head? plain.begins, if_neg]
  exact not_or.mpr ⟨plain.named, plain.keyed⟩

/--
A text is read if and only if it is the scheme, a bucket, a slash and a rest
that is more than slashes, and its location is then this bucket and the rest
without the slashes at its beginning.  A location is read back from its
written form if and only if it is plain; whatever was read is.
-/
theorem read_exactly :
    (∀ text location, parse text = .ok location ↔
      ∃ bucket rest, Spells text bucket rest ∧
        location = ⟨⟨bucket⟩, ⟨dropSlashes rest⟩⟩) ∧
      (∀ location : Location,
        parse location.display = .ok location ↔ location.IsPlain) ∧
      ∀ text location, parse text = .ok location →
        parse location.display = .ok location :=
  ⟨fun _ _ => parse_eq_ok_iff,
    fun _ => ⟨isPlain_of_parse, IsPlain.parse_display⟩,
    fun _ _ parsed => (isPlain_of_parse parsed).parse_display⟩

/-- The slashes that begin a key are dropped, and those inside it kept. -/
theorem read_slashed :
    parse "s3://bucket//a//b/" = .ok (ofPair "bucket" "a//b/") ∧
      parse "s3://bucket/a//b/" = .ok (ofPair "bucket" "a//b/") := by
  have parsed :
      parse "s3://bucket//a//b/" = .ok (ofPair "bucket" "a//b/") := by
    decide +kernel
  exact ⟨parsed, read_exactly.2.2 _ _ parsed⟩

/-- A slash in the bucket of a pair is read as the end of the bucket. -/
example :
    parse (ofPair "a/b" "c").display = .ok (ofPair "a" "b/c") := by
  decide +kernel

end Location

end Multipart
