import Multipart.Upload

/-!
# Starting and resuming uploads

An uploader holds the settings its uploads share.  Starting an upload asks
the store for an id, and resuming one may ask it for the parts it has; what
comes before and after these requests is decided here.
-/

namespace Multipart

/-- The settings of an uploader. -/
structure Uploader where
  partSize : UInt64 := Plan.defaultPartSize
  limit : Option Nat := none

namespace Uploader

/-- Set the part size, brought within one byte and the largest part. -/
def withPartSize (uploader : Uploader) (size : UInt64) : Uploader :=
  { uploader with partSize := min (max size 1) Plan.maxPartSize }

/-- Set how many parts of an upload may be in flight at once. -/
def withLimit (uploader : Uploader) (limit : Nat) : Uploader :=
  { uploader with limit := some limit }

/-- The plan for content of a given length. -/
def plan (uploader : Uploader) (length : UInt64) : Plan :=
  Plan.ofLength length uploader.partSize

/-- Refuse a plan of more parts than an upload may have. -/
def checkCount (plan : Plan) : Except Failure Plan :=
  if Plan.maxPartCount < plan.partCount then
    .error (.partCount plan.partCount plan.partSize)
  else
    .ok plan

/-- The plan to start an upload with. -/
def startPlan (uploader : Uploader) (length : UInt64) :
    Except Failure Plan :=
  checkCount (uploader.plan length)

/--
The plan to resume an upload with.  It cuts the content as the checkpoint
says, and has to come to as many parts.
-/
def resumePlan (checkpoint : Checkpoint) (length : UInt64) :
    Except Failure Plan :=
  let plan := Plan.ofLength length checkpoint.partSize
  if plan.partCount = checkpoint.totalParts then
    checkCount plan
  else
    .error
      (.tokenMismatch checkpoint.id checkpoint.totalParts plan.partCount)

/-- The request for the parts a resumed upload has, if it has any. -/
def listing? (checkpoint : Checkpoint) (target : Target) :
    Option Request :=
  if 0 < checkpoint.partsDone then some (.list target) else none

/-- What is noted when an upload was created. -/
def createdEntry (target : Target) (plan : Plan) : Journal.Entry :=
  { id := target.id
    note :=
      .created target.location plan.contentLength plan.partCount }

/-- What is noted when an upload is resumed. -/
def resumingEntry (target : Target) (checkpoint : Checkpoint)
    (existing : List Receipt) : Journal.Entry :=
  { id := target.id
    note :=
      .resuming target.location existing.length checkpoint.partsDone }

/-- The upload of content that follows a plan. -/
def upload {Content Phase : Type} (uploader : Uploader) (target : Target)
    (plan : Plan) (existing : List Receipt) (content : Content) :
    Upload Content Phase :=
  Upload.ofPlan target plan existing uploader.limit content

end Uploader

end Multipart
