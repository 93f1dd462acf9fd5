import Multipart.Endpoint
import Multipart.Service.Line
import Multipart.Upload.Rounds
import Multipart.Uploader

/-!
# A client of the service

A listing comes in pages; the client asks for one after another, as long as a
page says that more follows and where, and puts all entries in order.  Here
the service is given by its replies, in the order in which they will come.

A request may fail before the service sees it: none can be made for a blank
bucket or key, and none gets to a bucket that has no endpoint.  Where a bucket
asks for sessions, the client opens one for each request, with a reply of its
own.
-/

namespace Multipart

/-- The replies still to come, and what was sent and noted so far. -/
structure Service where
  replies : List Arrival := []
  /-- What was sent, and what arrived for it. -/
  log : List Passage := []
  journal : List Journal.Entry := []

namespace Service

/-- The requests that were sent. -/
def sent (service : Service) : List WireRequest :=
  service.log.map (·.wire)

/-- What a request brings: a reply or a fault, and the replies left over. -/
abbrev Delivery := Arrival × List Arrival

/-- Take the next reply. -/
def take : List Arrival → Delivery
  | [] => (.error .service, [])
  | reply :: replies => (reply, replies)

/-- What a request for an object brings, when these replies are to come. -/
def deliver (location : Location) (replies : List Arrival) : Delivery :=
  if location.isBlank then
    (.error .construction, replies)
  else
    match location.bucket.route with
    | .nowhere => (.error .dispatch, replies)
    | .direct => take replies
    | .session =>
      match take replies with
      | (.error _, replies) => (.error .dispatch, replies)
      | (.ok session, replies) =>
        if session.opensSession then take replies
        else (.error .dispatch, replies)

/-- A reply is taken from those to come. -/
theorem length_take_lt {replies rest : List Arrival}
    {reply : ServiceReply}
    (equality : take replies = (.ok reply, rest)) :
    rest.length < replies.length := by
  cases replies with
  | nil => simp [take] at equality
  | cons first replies =>
    cases equality
    exact Nat.lt_succ_self _

/-- A request that has a reply leaves fewer for the requests after it. -/
theorem length_deliver_lt {location : Location}
    {replies rest : List Arrival} {reply : ServiceReply}
    (equality : deliver location replies = (.ok reply, rest)) :
    rest.length < replies.length := by
  rw [deliver] at equality
  split at equality
  · simp at equality
  · split at equality
    · simp at equality
    · exact length_take_lt equality
    · split at equality
      · simp at equality
      · next session left opened =>
        split at equality
        · exact Nat.lt_trans (length_take_lt equality)
            (length_take_lt opened)
        · simp at equality

/-- Send a request, and take its reply. -/
def send (service : Service) (wire : WireRequest) : Service × Arrival :=
  let (arrival, replies) := deliver wire.location service.replies
  let log := service.log ++ [⟨wire, some arrival⟩]
  ({ service with replies, log }, arrival)

/-- Fewer replies are to come once there was one that another follows. -/
theorem length_send_lt {service later : Service} {wire : WireRequest}
    {arrival : Arrival} {marker : String}
    (sent : service.send wire = (later, arrival))
    (follows : arrival.next? = some marker) :
    later.replies.length < service.replies.length := by
  cases arrival with
  | error fault => cases follows
  | ok reply =>
    obtain ⟨rfl, same⟩ := Prod.mk.inj sent
    exact length_deliver_lt (Prod.ext same rfl)

/-- Ask for the pages of a listing, the first one at a marker. -/
def pages (service : Service) (target : Target) (marker : Option String)
    (gathered : List Receipt) : Service × Except Failure (List Receipt) :=
  match _sent : service.send (.list target marker) with
  | (service, arrival) =>
    match (Request.list target).receive arrival,
      _follows : arrival.next? with
    | .error failure, _ => (service, .error failure)
    | .ok (receipts : List Receipt), none =>
      (service, .ok (gathered ++ receipts))
    | .ok (receipts : List Receipt), some next =>
      service.pages target (some next) (gathered ++ receipts)
termination_by service.replies.length
decreasing_by exact length_send_lt _sent _follows

/-- The parts of an upload from every page, in ascending order. -/
def list (service : Service) (target : Target) :
    Service × Except Failure (List Receipt) :=
  match service.pages target none [] with
  | (service, .error failure) => (service, .error failure)
  | (service, .ok gathered) =>
    let receipts := Receipt.sorted gathered
    let entry : Journal.Entry :=
      { id := target.id, note := .listed receipts.length }
    ({ service with journal := service.journal ++ [entry] },
      .ok receipts)

/-- Have a request answered whose wire form is known. -/
def ask (service : Service) (wire : WireRequest) :
    (request : Request) → Service × Except Failure request.Answer
  | .list target => service.list target
  | request =>
    let (service, arrival) := service.send wire
    (service, request.receive arrival)

/-- Check a request and have the service answer it. -/
def serve (service : Service) (request : Request) :
    Service × Except Failure request.Answer :=
  match request.prepare with
  | .error failure => (service, .error failure)
  | .ok wire => service.ask wire request

/-! ## Uploads over the service -/

/-- Content in memory, given as one buffer. -/
abbrev Buffered := Option Bytes

/-- The service as a line on which replies come at once. -/
def line : Line Service Buffered Unit where
  unsent _ := ()
  poll service _ wire _ :=
    let (service, arrival) := service.send wire
    { world := service, outcome := .arrived arrival }
  list service _ target _ :=
    let (service, answer) := service.list target
    { world := service, outcome := .finished answer }
  size content := content.toList.length
  pull service _ content :=
    { world := service
      outcome :=
        match content with
        | some buffer => .item (.ok buffer) none (Nat.zero_lt_one)
        | none => .ended none }

/-- The end of an upload over the service. -/
structure Ending where
  outcome : Outcome
  state : State
  partsDone : Nat

/-- Note entries between what requests note. -/
def note (service : Service) (entries : List Journal.Entry) : Service :=
  { service with journal := service.journal ++ entries }

/-- What an upload starts from. -/
structure Opening where
  target : Target
  plan : Plan
  existing : List Receipt

/-- Drive an upload of content held in memory to its end. -/
def drive (service : Service) (uploader : Uploader) (opening : Opening)
    (body : Bytes) : Service × Ending :=
  let upload : Upload Buffered Unit :=
    uploader.upload opening.target opening.plan opening.existing (some body)
  let (turn, outcome) := upload.poll line.host service
  (turn.world.note turn.journal.toList,
    { outcome
      state := turn.upload.session.state
      partsDone := turn.upload.session.partsDone })

/-- Ask for a new upload. -/
def create (service : Service) (uploader : Uploader)
    (location : Location) (length : UInt64) :
    Service × Except Failure Opening :=
  match uploader.startPlan length with
  | .error failure => (service, .error failure)
  | .ok plan =>
    match service.serve (.create location) with
    | (service, .error failure) => (service, .error failure)
    | (service, .ok target) =>
      (service.note [Uploader.createdEntry target plan],
        .ok { target, plan, existing := [] })

/-- Ask for what there is of an upload that was paused. -/
def reopen (service : Service) (checkpoint : Checkpoint)
    (location : Location) (length : UInt64) :
    Service × Except Failure Opening :=
  match Uploader.resumePlan checkpoint length with
  | .error failure => (service, .error failure)
  | .ok plan =>
    let target : Target := { id := checkpoint.id, location }
    let (service, listed) :=
      if (Uploader.listing? checkpoint target).isSome then
        service.serve (.list target)
      else
        (service, .ok [])
    match listed with
    | .error failure => (service, .error failure)
    | .ok existing =>
      (service.note [Uploader.resumingEntry target checkpoint existing],
        .ok { target, plan, existing })

/-- Ask for a new upload, or for one that a checkpoint tells of. -/
def begin (service : Service) (uploader : Uploader)
    (token? : Option Checkpoint) (location : Location) (length : UInt64) :
    Service × Except Failure Opening :=
  match token? with
  | none => service.create uploader location length
  | some checkpoint => service.reopen checkpoint location length

/-- Begin an upload and drive it. -/
def run (service : Service) (uploader : Uploader)
    (token? : Option Checkpoint) (location : Location) (body : Bytes) :
    Service × Except Failure Ending :=
  let length := UInt64.ofNat body.length
  match service.begin uploader token? location length with
  | (service, .error failure) => (service, .error failure)
  | (service, .ok opening) =>
    let (service, ending) := service.drive uploader opening body
    (service, .ok ending)

/-- Start an upload and drive it. -/
def start (service : Service) (uploader : Uploader) (location : Location)
    (body : Bytes) : Service × Except Failure Ending :=
  service.run uploader none location body

/-- Resume an upload and drive it. -/
def resume (service : Service) (uploader : Uploader)
    (checkpoint : Checkpoint) (location : Location) (body : Bytes) :
    Service × Except Failure Ending :=
  service.run uploader (some checkpoint) location body

end Service

end Multipart
