import Multipart.Part
import Multipart.Location
import Multipart.Json.Record
import Multipart.Json.Writer

/-!
# The written form of the values an upload deals in

Names are written as texts and part numbers as numbers.  Locations, checksums
and receipts are records whose fields are written in a fixed order; a
checksum that is absent is written as such and may be left out when read.
-/

namespace Multipart

namespace PartNumber

def toJson (number : PartNumber) : List Char :=
  Json.writeCount number.toNat

def readJson (text : List Char) : Json.Reading PartNumber text :=
  match Json.expectCount 32 text with
  | .error problem => .error problem
  | .ok value => .ok (value.map PartNumber.ofNat)

end PartNumber

namespace Location

def toJson (location : Location) : List Char :=
  Json.writeObject
    [("bucket", Json.writeText location.bucket.text),
      ("key", Json.writeText location.key.text)]

/-- A location of which some fields have been read. -/
structure Draft where
  bucket : Option String := none
  key : Option String := none

/-- How a location is read; its bucket is taken as it is written. -/
def record : Json.Record Draft Location where
  name := "struct ObjectUri"
  fields :=
    [Json.Field.of "bucket" (·.bucket.isSome) Json.expectText
        fun draft bucket => { draft with bucket },
      Json.Field.of "key" (·.key.isSome) Json.expectText
        fun draft key => { draft with key }]
  blank := {}
  finish draft := do
    let bucket ← Json.require "bucket" draft.bucket
    let key ← Json.require "key" draft.key
    return { bucket := ⟨bucket⟩, key := ⟨key⟩ }

end Location

namespace Checksums

def toJson (checksums : Checksums) : List Char :=
  Json.writeObject
    (checksums.entries.map fun entry =>
      (entry.1, Json.writeOptionalText entry.2))

/--
Checksums of which some fields have been read.  The outer option tells
whether a field was given, the inner one whether it has a checksum.
-/
structure Draft where
  crc32 : Option (Option String) := none
  crc32c : Option (Option String) := none
  crc64nvme : Option (Option String) := none
  sha1 : Option (Option String) := none
  sha256 : Option (Option String) := none

/-- How checksums are read; a field that is not given is absent. -/
def record : Json.Record Draft Checksums where
  name := "struct Checksums"
  fields :=
    [Json.Field.of "crc32" (·.crc32.isSome) Json.expectOptionalText
        fun draft text => { draft with crc32 := some text },
      Json.Field.of "crc32c" (·.crc32c.isSome) Json.expectOptionalText
        fun draft text => { draft with crc32c := some text },
      Json.Field.of "crc64nvme" (·.crc64nvme.isSome)
        Json.expectOptionalText
        fun draft text => { draft with crc64nvme := some text },
      Json.Field.of "sha1" (·.sha1.isSome) Json.expectOptionalText
        fun draft text => { draft with sha1 := some text },
      Json.Field.of "sha256" (·.sha256.isSome) Json.expectOptionalText
        fun draft text => { draft with sha256 := some text }]
  blank := {}
  finish draft :=
    .ok
      { crc32 := draft.crc32.getD none
        crc32c := draft.crc32c.getD none
        crc64nvme := draft.crc64nvme.getD none
        sha1 := draft.sha1.getD none
        sha256 := draft.sha256.getD none }

end Checksums

namespace Receipt

def toJson (receipt : Receipt) : List Char :=
  Json.writeObject
    [("part_number", receipt.number.toJson),
      ("etag", Json.writeText receipt.tag.text),
      ("checksums", receipt.checksums.toJson),
      ("part_size", Json.writeCount receipt.size.toNat)]

/-- A receipt of which some fields have been read. -/
structure Draft where
  number : Option PartNumber := none
  tag : Option String := none
  checksums : Option Checksums := none
  size : Option Nat := none

/-- How a receipt is read. -/
def record : Json.Record Draft Receipt where
  name := "struct CompletedPart"
  fields :=
    [Json.Field.of "part_number" (·.number.isSome) PartNumber.readJson
        fun draft number => { draft with number },
      Json.Field.of "etag" (·.tag.isSome) Json.expectText
        fun draft tag => { draft with tag },
      Json.Field.of "checksums" (·.checksums.isSome) Checksums.record.read
        fun draft checksums => { draft with checksums },
      Json.Field.of "part_size" (·.size.isSome) (Json.expectCount 64)
        fun draft size => { draft with size }]
  blank := {}
  finish draft := do
    let number ← Json.require "part_number" draft.number
    let tag ← Json.require "etag" draft.tag
    let checksums ← Json.require "checksums" draft.checksums
    let size ← Json.require "part_size" draft.size
    return {
      number
      tag := ⟨tag⟩
      checksums
      size := UInt64.ofNat size }

end Receipt

end Multipart
