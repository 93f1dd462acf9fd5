import Multipart.Json.Values
import Multipart.Proofs.Checkpoint

/-!
# Values that are stored and read again

Checkpoints, locations and receipts are stored as JSON objects.  Each is read
back as it was: its names may have any characters, its counts may be as large
as their words allow, and any of its checksums may be absent.  The main
statement is `reads_back`.
-/

namespace Multipart

open Json

/-- The number of a part is read as it was written. -/
theorem PartNumber.readJson_toJson (number : PartNumber)
    {rest : List Char} (ends : EndsNumber rest) :
    Gives (readJson (number.toJson ++ rest)) number rest := by
  have gives : Gives (expectCount 32 (number.toJson ++ rest))
      number.toNat rest :=
    expectCount_writeCount number.value.toNat_lt (by decide) ends
  rcases gives with ⟨shorter, read⟩
  refine ⟨shorter, ?_⟩
  rw [readJson, read]
  dsimp only [Shorter.map]
  rw [ofNat_toNat]

/-- A location is read as it was written, its bucket with all its slashes. -/
theorem Location.read_toJson (location : Location) (rest : List Char) :
    Gives (record.read (location.toJson ++ rest)) location rest := by
  have fills : Fills record.fields record.blank
      [("bucket", writeText location.bucket.text),
        ("key", writeText location.key.text)]
      ⟨some location.bucket.text, some location.key.text⟩ :=
    .cons rfl rfl (fun _ => Field.fill_of (expectText_writeText _ _))
      (.cons rfl rfl (fun _ => Field.fill_of (expectText_writeText _ _))
        .nil)
  exact record.read_writeObject fills rfl rest

/-- Checksums are read as they were written, and so is their absence. -/
theorem Checksums.read_toJson (checksums : Checksums) (rest : List Char) :
    Gives (record.read (checksums.toJson ++ rest)) checksums rest := by
  have fills : Fills record.fields record.blank
      (checksums.entries.map fun entry =>
        (entry.1, writeOptionalText entry.2))
      ⟨some checksums.crc32, some checksums.crc32c,
        some checksums.crc64nvme, some checksums.sha1,
        some checksums.sha256⟩ := by
    have told := expectOptionalText_writeOptionalText
    refine .cons rfl rfl (fun _ => Field.fill_of (told _ _)) ?_
    refine .cons rfl rfl (fun _ => Field.fill_of (told _ _)) ?_
    refine .cons rfl rfl (fun _ => Field.fill_of (told _ _)) ?_
    refine .cons rfl rfl (fun _ => Field.fill_of (told _ _)) ?_
    refine .cons rfl rfl (fun _ => Field.fill_of (told _ _)) ?_
    exact .nil
  exact record.read_writeObject fills rfl rest

/-- A receipt is read as it was written, with the checksums inside it. -/
theorem Receipt.read_toJson (receipt : Receipt) (rest : List Char) :
    Gives (record.read (receipt.toJson ++ rest)) receipt rest := by
  have fills : Fills record.fields record.blank
      [("part_number", receipt.number.toJson),
        ("etag", writeText receipt.tag.text),
        ("checksums", receipt.checksums.toJson),
        ("part_size", writeCount receipt.size.toNat)]
      ⟨some receipt.number, some receipt.tag.text,
        some receipt.checksums, some receipt.size.toNat⟩ := by
    refine .cons rfl rfl (fun ends =>
      Field.fill_of (receipt.number.readJson_toJson ends)) ?_
    refine .cons rfl rfl (fun _ =>
      Field.fill_of (expectText_writeText _ _)) ?_
    refine .cons rfl rfl (fun _ =>
      Field.fill_of (receipt.checksums.read_toJson _)) ?_
    refine .cons rfl rfl (fun ends => Field.fill_of
      (expectCount_writeCount receipt.size.toNat_lt (by decide) ends)) ?_
    exact .nil
  have finish : record.finish
      ⟨some receipt.number, some receipt.tag.text,
        some receipt.checksums, some receipt.size.toNat⟩ =
        .ok receipt := by
    simp [record, require, bind, Except.bind, pure, Except.pure]
  exact record.read_writeObject fills finish rest

/--
What is stored is read back: a checkpoint, whatever its id and its counts; a
location, whether or not a slash ends its bucket; and a receipt, whichever
checksums it has.
-/
theorem reads_back :
    (∀ checkpoint : Checkpoint,
      Checkpoint.ofJson checkpoint.toJson = .ok checkpoint) ∧
    (∀ location : Location,
      readDocument Location.record.read (String.ofList location.toJson) =
        .ok location) ∧
    (∀ receipt : Receipt,
      readDocument Receipt.record.read (String.ofList receipt.toJson) =
        .ok receipt) := by
  refine ⟨Checkpoint.ofJson_written, ?_, ?_⟩
  · intro location
    exact readDocument_of_gives (location.read_toJson [])
  · intro receipt
    exact readDocument_of_gives (receipt.read_toJson [])

end Multipart
