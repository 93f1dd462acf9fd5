import Multipart.Host
import Multipart.Pool

/-!
# An upload in progress

An upload cuts its content into parts, keeps the requests for them in flight,
and completes when every part is done.  When a part or the content fails, the
upload is aborted once and ends with the failure that came first; when it is
paused, it ends with a failure that says so.
-/

namespace Multipart

/-- The request that completes an upload. -/
structure Closing (Phase : Type) where
  receipts : List Receipt
  phase : Phase
  cancelled : Bool := false

/-- An upload, with its content and the client's state of its requests. -/
structure Upload (Content Phase : Type) where
  session : Session
  cutter : Cutter Content
  pool : Pool Phase := {}
  /-- How many parts may be in flight at once. -/
  capacity : Option Nat := none
  closing : Option (Closing Phase) := none
  /-- The request that aborts the upload. -/
  abort : Option Phase := none
  /-- The failure to end with once the upload is aborted. -/
  failure : Option Failure := none
  resolved : Bool := false

namespace Upload

variable {Content Phase : Type}

/-- A limit of zero is no limit. -/
def limitOf : Option Nat → Option Nat
  | some 0 => none
  | limit => limit

/--
The upload of content to a target.  Receipts for parts the plan does not have
are left aside.
-/
def ofPlan (target : Target) (plan : Plan) (existing : List Receipt)
    (limit : Option Nat) (content : Content) : Upload Content Phase where
  session :=
    Session.begin target plan
      (existing.filter fun receipt => plan.contains receipt.number)
  cutter := Cutter.ofPlan plan content
  capacity := limitOf limit

/-- Holds when another part may be sent. -/
def hasRoom (upload : Upload Content Phase) : Bool :=
  match upload.capacity with
  | none => true
  | some limit => upload.pool.size < limit

/-- The request for a part. -/
def partRequest (upload : Upload Content Phase)
    (flight : Flight Phase) : Request :=
  .part upload.session.target flight.number flight.body

/-- Every request of the upload that has not resolved. -/
def requests (upload : Upload Content Phase) : List (Request × Phase) :=
  let target := upload.session.target
  upload.pool.flights.map
      (fun flight => (.part target flight.number flight.body, flight.phase)) ++
    upload.closing.toList.map
      (fun closing => (.complete target closing.receipts, closing.phase)) ++
    upload.abort.toList.map fun phase => (.abort target, phase)

/--
Pause an upload through a handle.  The first time, its requests are
cancelled; what is noted then is part of the answer.
-/
def pause (upload : Upload Content Phase) :
    Upload Content Phase × Session.PauseAnswer × List Journal.Entry :=
  match upload.session.pause with
  | (session, .now checkpoint) =>
    ({ upload with
        session
        pool := upload.pool.cancelAll
        closing :=
          upload.closing.map ({ · with cancelled := true }) },
      .now checkpoint, session.pauseEntries)
  | (session, answer) => ({ upload with session }, answer, [])

end Upload

end Multipart
