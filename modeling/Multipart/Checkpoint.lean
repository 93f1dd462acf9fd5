import Multipart.Failure
import Multipart.Json.Record
import Multipart.Json.Writer

/-!
# What a paused upload leaves behind

A checkpoint names a paused upload, how its content was cut and how many of
its parts were done.  It is stored as a JSON object with four fields, in an
order and under names that do not change.
-/

namespace Multipart

/-- What is needed to take a paused upload up again. -/
structure Checkpoint where
  id : UploadId
  partSize : UInt64
  totalParts : UInt32
  partsDone : UInt32
deriving DecidableEq

namespace Checkpoint

/-- The written form of a checkpoint. -/
def toJson (checkpoint : Checkpoint) : String :=
  String.ofList (Json.writeObject
    [("uploadId", Json.writeText checkpoint.id.text),
      ("partSize", Json.writeCount checkpoint.partSize.toNat),
      ("totalPartCount", Json.writeCount checkpoint.totalParts.toNat),
      ("numPartsCompleted", Json.writeCount checkpoint.partsDone.toNat)])

/-- A checkpoint of which some fields have been read. -/
structure Draft where
  id : Option String := none
  partSize : Option Nat := none
  totalParts : Option Nat := none
  partsDone : Option Nat := none

/-- How a checkpoint is read. -/
def record : Json.Record Draft Checkpoint where
  name := "struct ResumeToken"
  fields :=
    [Json.Field.of "uploadId" (·.id.isSome) Json.expectText
        fun draft id => { draft with id },
      Json.Field.of "partSize" (·.partSize.isSome) (Json.expectCount 64)
        fun draft size => { draft with partSize := size },
      Json.Field.of "totalPartCount" (·.totalParts.isSome)
        (Json.expectCount 32)
        fun draft count => { draft with totalParts := count },
      Json.Field.of "numPartsCompleted" (·.partsDone.isSome)
        (Json.expectCount 32)
        fun draft count => { draft with partsDone := count }]
  blank := {}
  finish draft := do
    let id ← Json.require "uploadId" draft.id
    let partSize ← Json.require "partSize" draft.partSize
    let totalParts ← Json.require "totalPartCount" draft.totalParts
    let partsDone ← Json.require "numPartsCompleted" draft.partsDone
    return {
      id := ⟨id⟩
      partSize := UInt64.ofNat partSize
      totalParts := UInt32.ofNat totalParts
      partsDone := UInt32.ofNat partsDone }

/-- Read a checkpoint from its written form. -/
def ofJson (text : String) : Except Failure Checkpoint :=
  match Json.readDocument record.read text with
  | .ok checkpoint => .ok checkpoint
  | .error problem => .error (.token problem)

end Checkpoint

end Multipart
