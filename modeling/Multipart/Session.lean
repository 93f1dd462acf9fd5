import Multipart.Checkpoint
import Multipart.Journal
import Multipart.Progress
import Multipart.Request

/-!
# The shared state of an upload

The task that drives an upload and the handles that pause it share a session.
An upload is decided once: it is paused or it fails, and never both, because
both claim the one verdict.
-/

namespace Multipart

/-- Whether an upload was decided, and how. -/
inductive Verdict where
  | running
  | paused
  | failed
deriving DecidableEq

/-- What can be seen of an upload. -/
inductive State where
  | notStarted
  | active
  | completing
  | completed
  | paused
  | failed
deriving DecidableEq

/-- The word for a state. -/
def State.display : State → String
  | .notStarted => "not_started"
  | .active => "active"
  | .completing => "completing"
  | .completed => "completed"
  | .paused => "paused"
  | .failed => "failed"

/-- The shared state of an upload. -/
structure Session where
  target : Target
  plan : Plan
  progress : Progress
  verdict : Verdict := .running
  /-- The number of the part that is cut next. -/
  nextPart : PartNumber := .first
  /-- How many parts were sent and have not resolved. -/
  inFlight : Nat := 0
  /-- The parts that can be cancelled through their handles. -/
  handles : List PartNumber := []
  started : Bool := false
  sourceDone : Bool := false
  completing : Bool := false
  completed : Bool := false

namespace Session

/-- The session of an upload that has not been driven yet. -/
def begin (target : Target) (plan : Plan) (existing : List Receipt) :
    Session :=
  { target, plan, progress := Progress.ofReceipts existing }

/-- The state that can be seen; the later stages hide the earlier ones. -/
def state (session : Session) : State :=
  if session.completed then .completed
  else if session.verdict = .failed then .failed
  else if session.verdict = .paused then .paused
  else if session.completing then .completing
  else if session.started then .active
  else .notStarted

/-- A note about this upload. -/
def entry (session : Session) (note : Journal.Note) : Journal.Entry :=
  { id := session.target.id, note }

/-- How many parts are done. -/
def partsDone (session : Session) : Nat :=
  session.progress.done

/-- What it takes to resume the upload as it stands. -/
def checkpoint (session : Session) : Checkpoint :=
  { id := session.target.id
    partSize := session.plan.partSize
    totalParts := session.plan.partCount
    partsDone := UInt32.ofNat (min session.partsDone (UInt32.size - 1)) }

/-- The failure an upload ends with after a pause. -/
def pausedFailure (session : Session) : Failure :=
  .paused session.target.id

/-! ## Sending parts -/

/-- Take the number of the next part. -/
def takeNumber (session : Session) : Session × PartNumber :=
  ({ session with nextPart := session.nextPart.next }, session.nextPart)

/-- Count a part as sent. -/
def beginPart (session : Session) (number : PartNumber) : Session :=
  { session with
    inFlight := session.inFlight + 1
    handles := number :: session.handles.erase number }

/-- Count a part as resolved, one way or another. -/
def endPart (session : Session) (number : PartNumber) : Session :=
  { session with
    inFlight := session.inFlight - 1
    handles := session.handles.erase number }

/-- Keep the receipt of a part. -/
def record (session : Session) (receipt : Receipt) : Session :=
  { session with progress := session.progress.record receipt }

/-! ## Deciding the upload -/

/-- What asking for a pause comes to. -/
inductive PauseAnswer where
  /-- The upload has completed or failed. -/
  | refused
  /-- The upload was paused before. -/
  | again (checkpoint : Checkpoint)
  /-- The upload is paused now, and its requests are to be cancelled. -/
  | now (checkpoint : Checkpoint)

/-- The checkpoint an answer hands out. -/
def PauseAnswer.checkpoint? : PauseAnswer → Option Checkpoint
  | .refused => none
  | .again checkpoint => some checkpoint
  | .now checkpoint => some checkpoint

/-- Ask for a pause. -/
def pause (session : Session) : Session × PauseAnswer :=
  if session.completed then
    (session, .refused)
  else
    match session.verdict with
    | .failed => (session, .refused)
    | .paused => (session, .again session.checkpoint)
    | .running =>
      ({ session with verdict := .paused }, .now session.checkpoint)

/-- The note of how many handles are cancelled. -/
def cancelledEntry (session : Session) : Journal.Entry :=
  session.entry (.cancelled session.handles.length)

/-- What is noted when the upload is paused. -/
def pauseEntries (session : Session) : List Journal.Entry :=
  [session.cancelledEntry, session.entry (.paused session.partsDone)]

/-- What is noted when the upload fails. -/
def failureEntries (session : Session) (failure : Failure) :
    List Journal.Entry :=
  [session.cancelledEntry, session.entry .failed,
    session.entry (.aborting failure)]

/--
Holds when the upload may be completed: the source has ended, no part is in
flight, it is neither paused nor failed, and it is not being completed yet.
-/
def mayComplete (session : Session) : Bool :=
  session.sourceDone && session.inFlight = 0 &&
    session.verdict = .running && !session.completing

end Session

end Multipart
