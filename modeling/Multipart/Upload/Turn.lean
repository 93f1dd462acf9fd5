import Multipart.Upload

/-!
# The state of an upload while it is polled

A turn is an upload together with its host, from the start of a poll to its
end.  It also keeps what the poll is known by afterwards: whether the task
that drives the upload was woken, what was noted, and which requests were
given up before they finished.
-/

namespace Multipart

/-- An upload and its host in the middle of a poll. -/
structure Turn (World Content Phase : Type) where
  upload : Upload Content Phase
  world : World
  woken : Bool := false
  journal : Array Journal.Entry := #[]
  dropped : List (Request × Phase) := []

namespace Turn

variable {World Content Phase : Type}

/-- Write entries in the journal. -/
def note (turn : Turn World Content Phase)
    (entries : List Journal.Entry) : Turn World Content Phase :=
  { turn with journal := entries.foldl Array.push turn.journal }

/-- Wake the task that drives the upload. -/
def wake (turn : Turn World Content Phase) : Turn World Content Phase :=
  { turn with woken := true }

/-- Change the session. -/
def withSession (turn : Turn World Content Phase) (session : Session) :
    Turn World Content Phase :=
  { turn with upload := { turn.upload with session } }

/-- Change the pool of requests. -/
def withPool (turn : Turn World Content Phase) (pool : Pool Phase) :
    Turn World Content Phase :=
  { turn with upload := { turn.upload with pool } }

/-- Change the cutter. -/
def withCutter (turn : Turn World Content Phase)
    (cutter : Cutter Content) : Turn World Content Phase :=
  { turn with upload := { turn.upload with cutter } }

/-- Note something about this upload. -/
def noteHere (turn : Turn World Content Phase) (note : Journal.Note) :
    Turn World Content Phase :=
  turn.note [turn.upload.session.entry note]

/-- Pause the upload, and wake its task if it was not paused before. -/
def pauseHere (turn : Turn World Content Phase) :
    Turn World Content Phase :=
  let asked := turn.upload.pause
  let turn := { turn with upload := asked.1 }.note asked.2.2
  match asked.2.1 with
  | .now _ => turn.wake
  | _ => turn

/-- Act on one signal of the host. -/
def signal (turn : Turn World Content Phase) :
    Signal → Turn World Content Phase
  | .pause => turn.pauseHere
  | .wakePart number =>
    if turn.upload.pool.isIdle number then
      (turn.withPool (turn.upload.pool.wake number)).wake
    else
      turn
  | .wakeDriver => turn.wake
  | .note entry => turn.note [entry]

/-- Act on the signals of the host in their order. -/
def receive (turn : Turn World Content Phase) (signals : List Signal) :
    Turn World Content Phase :=
  signals.foldl signal turn

/-- The turn after a reply of the host. -/
def hear {Outcome : Type} (turn : Turn World Content Phase)
    (reply : Reply World Outcome) : Turn World Content Phase :=
  { turn with world := reply.world }.receive reply.signals

/-! ## Polling the pool -/

/-- What asking the pool for a resolved request comes to. -/
inductive Landing where
  /-- No request is left. -/
  | empty
  /-- No request has resolved so far. -/
  | pending
  /-- A request has resolved; without a result it was cancelled. -/
  | landed (number : PartNumber)
      (result : Option (Except Failure Receipt))

/-- Take a request that was cancelled out of the pool. -/
def drop (turn : Turn World Content Phase) (flight : Flight Phase) :
    Turn World Content Phase :=
  let request := (turn.upload.partRequest flight, flight.phase)
  { turn.withPool (turn.upload.pool.remove flight.number) with
    dropped := request :: turn.dropped }

/-- Poll one request, which stands idle meanwhile. -/
def pollFlight (host : Host World Content Phase)
    (turn : Turn World Content Phase) (flight : Flight Phase)
    (queued : List (Flight Phase)) :
    Turn World Content Phase × Landing :=
  let idle := turn.upload.pool.idle ++ [flight]
  let turn := turn.withPool { queued, idle }
  let session := turn.upload.session
  let reply :=
    host.poll turn.world session
      (.part session.target flight.number flight.body) flight.phase
  let turn := turn.hear reply
  match reply.outcome with
  | .finished result =>
    (turn.withPool (turn.upload.pool.remove flight.number),
      .landed flight.number (some result))
  | .waiting phase =>
    let turn :=
      turn.withPool (turn.upload.pool.setPhase flight.number phase)
    match turn.upload.pool.find? flight.number with
    | some flight =>
      if flight.cancelled then
        (turn.drop flight, .landed flight.number none)
      else
        (turn, .pending)
    | none => (turn, .pending)
  | .panicked panic _ => nomatch panic

/--
Ask the pool for a resolved request.  Requests are polled from the front of
the queue until one has resolved or the queue is empty.  The poll also stops,
and wakes the task to go on later, when as many requests were pending as
there were at first, or two of them had woken themselves.
-/
def pollPool (host : Host World Content Phase) :
    (remaining yields : Nat) → Turn World Content Phase →
      Turn World Content Phase × Landing
  | 0, _, turn =>
    if turn.upload.pool.isEmpty then (turn, .empty)
    else (turn.wake, .pending)
  | remaining + 1, yields, turn =>
    match turn.upload.pool.queued with
    | [] =>
      if turn.upload.pool.isEmpty then (turn, .empty)
      else (turn, .pending)
    | flight :: queued =>
      if flight.cancelled then
        (turn.drop flight, .landed flight.number none)
      else
        match turn.pollFlight host flight queued with
        | (turn, .pending) =>
          let yields :=
            if turn.upload.pool.isQueued flight.number then yields + 1
            else yields
          if yields < 2 then pollPool host remaining yields turn
          else (turn.wake, .pending)
        | landed => landed

/-! ## Resolving requests -/

/-- What becomes of the upload when a request has resolved. -/
def land (turn : Turn World Content Phase) (number : PartNumber) :
    Option (Except Failure Receipt) →
      Turn World Content Phase × Option Failure
  | some (.ok receipt) =>
    let turn := turn.noteHere (.finished receipt)
    let session := turn.upload.session.record receipt
    (turn.withSession (session.endPart number), none)
  | some (.error failure) =>
    (turn.withSession (turn.upload.session.endPart number), some failure)
  | none =>
    let turn := turn.noteHere (.partCancelled number)
    (turn.withSession (turn.upload.session.endPart number), none)

/-- What resolving every request that can be resolved comes to. -/
inductive Drained where
  /-- No request is left. -/
  | empty
  /-- Requests are left that have not resolved. -/
  | pending
  /-- A request has failed. -/
  | failed (failure : Failure)

/-- Resolve one request; without an outcome there may be others. -/
def drainOnce (host : Host World Content Phase)
    (turn : Turn World Content Phase) :
    Turn World Content Phase × Option Drained :=
  match turn.pollPool host turn.upload.pool.size 0 with
  | (turn, .empty) => (turn, some .empty)
  | (turn, .pending) => (turn, some .pending)
  | (turn, .landed number result) =>
    match turn.land number result with
    | (turn, some failure) => (turn, some (.failed failure))
    | (turn, none) => (turn, none)

/-- Resolve requests until none can be resolved or one has failed. -/
def drain (host : Host World Content Phase) :
    (budget : Nat) → Turn World Content Phase →
      Turn World Content Phase × Drained
  | 0, turn => (turn, .empty)
  | budget + 1, turn =>
    match turn.drainOnce host with
    | (turn, some drained) => (turn, drained)
    | (turn, none) => drain host budget turn

/-- Resolve requests; each of the pool resolves at most once. -/
def drainPool (host : Host World Content Phase)
    (turn : Turn World Content Phase) :
    Turn World Content Phase × Drained :=
  turn.drain host turn.upload.pool.size

end Turn

end Multipart
