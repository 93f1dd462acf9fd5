import Multipart.Failure

/-!
# The journal of an upload

An upload notes what happens to it.  An entry has a level, a message and the
fields the message is about; it is written as one line.
-/

namespace Multipart.Journal

/-- How much an entry matters. -/
inductive Level where
  | trace
  | debug
  | warn
deriving DecidableEq

/-- The word for a level. -/
def Level.display : Level → String
  | .trace => "TRACE"
  | .debug => "DEBUG"
  | .warn => "WARN"

/-- What an upload notes, each with the id of the upload it is about. -/
inductive Note where
  | created (location : Location) (bytes : UInt64) (parts : UInt32)
  | resuming (location : Location) (existing : Nat) (recorded : UInt32)
  | active (location : Location) (parts : UInt32) (existing : Nat)
  | sent (part : PartNumber) (bytes : Nat)
  | skipped (part : PartNumber)
  | finished (receipt : Receipt)
  | partCancelled (part : PartNumber)
  | sourceDone
  | completing (location : Location) (parts : Nat)
  | completed (location : Location) (tag : EntityTag)
  | cancelled (count : Nat)
  | paused (count : Nat)
  | failed
  | aborting (failure : Failure)
  | abortFailed (failure : Failure)
  | listed (parts : Nat)
deriving DecidableEq

/-- The level of a note. -/
def Note.level : Note → Level
  | .created _ _ _ => .debug
  | .resuming _ _ _ => .debug
  | .active _ _ _ => .debug
  | .sent _ _ => .trace
  | .skipped _ => .trace
  | .finished _ => .trace
  | .partCancelled _ => .trace
  | .sourceDone => .trace
  | .completing _ _ => .debug
  | .completed _ _ => .debug
  | .cancelled _ => .trace
  | .paused _ => .debug
  | .failed => .debug
  | .aborting _ => .debug
  | .abortFailed _ => .warn
  | .listed _ => .trace

/-- The message of a note. -/
def Note.message : Note → String
  | .created _ _ _ => "created upload"
  | .resuming _ _ _ => "resuming upload"
  | .active _ _ _ => "upload active"
  | .sent _ _ => "part upload sent"
  | .skipped _ => "skipping existing part"
  | .finished _ => "completed part"
  | .partCancelled _ => "part upload cancelled"
  | .sourceDone => "content source done"
  | .completing _ _ => "completing upload"
  | .completed _ _ => "completed upload"
  | .cancelled _ => "cancelled part uploads"
  | .paused _ => "paused upload"
  | .failed => "upload failed"
  | .aborting _ => "aborting upload"
  | .abortFailed _ => "abort upload failed"
  | .listed _ => "listed parts"

/-- The fields of a note in their order, each under its name. -/
def Note.fields : Note → List (String × String)
  | .created location bytes parts =>
    [("uri", location.display), ("bytes", toString bytes.toNat),
      ("parts", toString parts.toNat)]
  | .resuming location existing recorded =>
    [("uri", location.display), ("existing", toString existing),
      ("recorded", toString recorded.toNat)]
  | .active location parts existing =>
    [("uri", location.display), ("parts", toString parts.toNat),
      ("existing", toString existing)]
  | .sent part bytes =>
    [("part", part.display), ("bytes", toString bytes)]
  | .skipped part => [("part", part.display)]
  | .finished receipt =>
    [("part", receipt.number.display), ("etag", receipt.tag.text),
      ("size", toString receipt.size.toNat)]
  | .partCancelled part => [("part", part.display)]
  | .sourceDone => []
  | .completing location parts =>
    [("uri", location.display), ("parts", toString parts)]
  | .completed location tag =>
    [("uri", location.display), ("etag", tag.text)]
  | .cancelled count => [("cancelled", toString count)]
  | .paused count => [("completed", toString count)]
  | .failed => []
  | .aborting failure => [("error", failure.message)]
  | .abortFailed failure => [("error", failure.message)]
  | .listed parts => [("parts", toString parts)]

/-- A note about one upload. -/
structure Entry where
  id : UploadId
  note : Note
deriving DecidableEq

/-- The line an entry is written as. -/
def Entry.display (entry : Entry) : String :=
  let fields := ("id", entry.id.text) :: entry.note.fields
  let written := fields.map fun field => field.1 ++ "=" ++ field.2
  entry.note.level.display ++ " " ++ entry.note.message ++ ": " ++
    String.intercalate " " written

end Multipart.Journal
