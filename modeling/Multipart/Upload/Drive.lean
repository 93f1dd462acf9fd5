import Multipart.Upload.Turn

/-!
# Driving an upload

A poll goes round until something has to be waited for or the upload
resolves.  Each round that is followed by another has cut a part, seen the
end of the content, begun to complete the upload, or taken the one way to
failure.  Of each of these only so many are left, so the rounds come to an
end whatever the host does.
-/

namespace Multipart

/-- A poll that could not be carried out. -/
inductive Fault where
  /-- The upload had resolved before. -/
  | alreadyResolved
  /-- A part of the upload has no receipt. -/
  | noReceipt (number : PartNumber) (count : UInt32)
  /-- The cutter or the client broke off. -/
  | panicked (panic : Panic)
deriving DecidableEq

/-- The sentence that tells a fault. -/
def Fault.message : Fault → String
  | .alreadyResolved => "Upload polled after completion"
  | .noReceipt number count =>
    "no result recorded for " ++ number.display ++ " of " ++
      toString count.toNat
  | .panicked panic => panic.message

/-- What polling an upload comes to. -/
inductive Outcome where
  | pending
  | resolved (result : Except Failure Completion)
  | faulted (fault : Fault)

namespace Turn

variable {World Content Phase : Type}

/-! ## Ending and failing -/

/-- Give up the part requests that are left. -/
def clearPool (turn : Turn World Content Phase) :
    Turn World Content Phase :=
  let requests := turn.upload.pool.flights.map fun flight =>
    (turn.upload.partRequest flight, flight.phase)
  { turn.withPool {} with dropped := requests ++ turn.dropped }

/-- End the upload with a result. -/
def resolve (turn : Turn World Content Phase)
    (result : Except Failure Completion) :
    Turn World Content Phase × Option Outcome :=
  let turn := turn.clearPool
  let upload := { turn.upload with resolved := true }
  ({ turn with upload }, some (.resolved result))

/-- End an upload that was paused. -/
def resolvePaused (turn : Turn World Content Phase) :
    Turn World Content Phase × Option Outcome :=
  turn.resolve (.error turn.upload.session.pausedFailure)

/--
Take the way to failure.  A running upload cancels what is in flight and asks
for its abort, to end with this failure after that; one that was paused ends
as paused.
-/
def fail (host : Host World Content Phase)
    (turn : Turn World Content Phase) (failure : Failure) :
    Turn World Content Phase × Option Outcome :=
  match turn.upload.session.verdict with
  | .paused => turn.resolvePaused
  | .failed => turn.resolve (.error failure)
  | .running =>
    let session := { turn.upload.session with verdict := .failed }
    let turn := turn.note (session.failureEntries failure)
    let turn :=
      if turn.upload.pool.idle.isEmpty then turn else turn.wake
    let turn := turn.clearPool
    let upload :=
      { turn.upload with
        session
        closing := none
        failure := some failure
        abort := some (host.unsent (.abort session.target)) }
    ({ turn with upload }, none)

/-! ## The rounds of a poll -/

/-- Wait for the abort, and end with the failure that led to it. -/
def awaitAbort (host : Host World Content Phase)
    (turn : Turn World Content Phase) (phase : Phase) :
    Turn World Content Phase × Option Outcome :=
  let session := turn.upload.session
  let reply := host.poll turn.world session (.abort session.target) phase
  let turn := turn.hear reply
  match reply.outcome with
  | .waiting phase =>
    let upload := { turn.upload with abort := some phase }
    ({ turn with upload }, some .pending)
  | .finished answer =>
    let turn :=
      match answer with
      | .ok _ => turn
      | .error failure => turn.noteHere (.abortFailed failure)
    let failure :=
      turn.upload.failure.getD turn.upload.session.pausedFailure
    let upload := { turn.upload with abort := none, failure := none }
    { turn with upload }.resolve (.error failure)
  | .panicked panic _ => nomatch panic

/-- Give up the request that completes the upload, which was cancelled. -/
def dropClosing (turn : Turn World Content Phase)
    (closing : Closing Phase) :
    Turn World Content Phase × Option Outcome :=
  let request :=
    (.complete turn.upload.session.target closing.receipts, closing.phase)
  let upload := { turn.upload with closing := none }
  { turn with upload, dropped := request :: turn.dropped }.resolvePaused

/-- Wait for the request that completes the upload. -/
def awaitClosing (host : Host World Content Phase)
    (turn : Turn World Content Phase) (closing : Closing Phase) :
    Turn World Content Phase × Option Outcome :=
  if closing.cancelled then
    turn.dropClosing closing
  else
    let session := turn.upload.session
    let reply :=
      host.poll turn.world session
        (.complete session.target closing.receipts) closing.phase
    let turn := turn.hear reply
    match reply.outcome with
    | .waiting phase =>
      let cancelled := turn.upload.closing.any (·.cancelled)
      if cancelled then
        turn.dropClosing { closing with phase }
      else
        let upload :=
          { turn.upload with closing := some { closing with phase } }
        ({ turn with upload }, some .pending)
    | .finished answer =>
      let upload := { turn.upload with closing := none }
      let turn := { turn with upload }
      match answer with
      | .error failure => turn.fail host failure
      | .ok completion =>
        let session :=
          { turn.upload.session with completed := true }
        let turn := turn.withSession session
        let turn :=
          turn.noteHere (.completed completion.location completion.tag)
        turn.resolve (.ok completion)
    | .panicked panic phase =>
      let closing := turn.upload.closing.map ({ · with phase })
      let upload := { turn.upload with closing }
      ({ turn with upload }, some (.faulted (.panicked panic)))

/-- Send a part, unless the upload had it from the beginning. -/
def sendPart (host : Host World Content Phase)
    (turn : Turn World Content Phase) (body : Bytes) :
    Turn World Content Phase :=
  let (session, number) := turn.upload.session.takeNumber
  if session.progress.existing.contains number then
    (turn.withSession session).noteHere (.skipped number)
  else
    let session := session.beginPart number
    let flight : Flight Phase :=
      { number
        body
        phase := host.unsent (.part session.target number body)
        cancelled := session.verdict ≠ .running }
    let pool := turn.upload.pool.push flight
    ((turn.withSession session).withPool pool).noteHere
      (.sent number body.length)

/-- The content of an upload, asked for buffers in the middle of a turn. -/
def content (host : Host World Content Phase) :
    Stream (Turn World Content Phase) Content where
  size := host.size
  pull turn content :=
    let reply := host.pull turn.world turn.upload.session content
    (turn.hear reply, reply.outcome)

/-- What becomes of an upload when its cutter was polled. -/
def finishCut (host : Host World Content Phase)
    (polled : Turn World Content Phase × Cutter Content × Cutter.Outcome) :
    Turn World Content Phase × Option Outcome :=
  let turn := polled.1.withCutter polled.2.1
  match polled.2.2 with
  | .pending => (turn, some .pending)
  | .part body => (turn.sendPart host body, none)
  | .failed failure => turn.fail host failure
  | .ended =>
    let turn := turn.noteHere .sourceDone
    (turn.withSession { turn.upload.session with sourceDone := true }, none)
  | .broken panic => (turn, some (.faulted (.panicked panic)))

/-- Cut the next part of the content and send it. -/
def cutPart (host : Host World Content Phase)
    (turn : Turn World Content Phase) :
    Turn World Content Phase × Option Outcome :=
  finishCut host (turn.upload.cutter.poll (content host) turn)

/-- Begin to complete the upload. -/
def beginClosing (host : Host World Content Phase)
    (turn : Turn World Content Phase) :
    Turn World Content Phase × Option Outcome :=
  let session := { turn.upload.session with completing := true }
  let turn := turn.withSession session
  match session.progress.assemble session.plan with
  | .error number =>
    (turn, some (.faulted (.noReceipt number session.plan.partCount)))
  | .ok receipts =>
    let target := session.target
    let turn :=
      turn.noteHere (.completing target.location receipts.length)
    let closing : Closing Phase :=
      { receipts
        phase := host.unsent (.complete target receipts)
        cancelled := session.verdict = .paused }
    let upload := { turn.upload with closing := some closing }
    ({ turn with upload }, none)

/-- What follows when requests were resolved after the last part. -/
def flushed (host : Host World Content Phase) :
    Turn World Content Phase × Drained →
      Turn World Content Phase × Option Outcome
  | (turn, .failed failure) => turn.fail host failure
  | (turn, .pending) => (turn, some .pending)
  | (turn, .empty) =>
    if turn.upload.session.mayComplete then
      turn.beginClosing host
    else
      (turn, some .pending)

/-- Wait for the parts in flight, once every part was sent. -/
def awaitParts (host : Host World Content Phase)
    (turn : Turn World Content Phase) :
    Turn World Content Phase × Option Outcome :=
  flushed host (turn.drainPool host)

section Course

/-! What a round goes on to is told by what is to be made of it. -/

variable {Next : Type}
  (ends : Turn World Content Phase × Option Outcome → Next)
  (clear flush cut : Turn World Content Phase → Next)

/-- The next part is cut if there is room for it and if there is one. -/
def onward (turn : Turn World Content Phase) : Next :=
  if ¬ turn.upload.hasRoom then ends (turn, some .pending)
  else if turn.upload.session.sourceDone then flush turn
  else cut turn

/-- What follows when requests were resolved before the next part. -/
def cleared (host : Host World Content Phase) :
    Turn World Content Phase × Drained → Next
  | (turn, .failed failure) => ends (turn.fail host failure)
  | (turn, .pending) => turn.onward ends flush cut
  | (turn, .empty) => turn.onward ends flush cut

/-- What a round begins with. -/
def enter (host : Host World Content Phase)
    (turn : Turn World Content Phase) : Next :=
  match turn.upload.abort, turn.upload.closing with
  | some phase, _ => ends (turn.awaitAbort host phase)
  | none, some closing => ends (turn.awaitClosing host closing)
  | none, none =>
    if turn.upload.session.verdict = .paused then ends turn.resolvePaused
    else clear turn

end Course

/-- Resolve parts and send others, as long as the upload goes on. -/
def advance (host : Host World Content Phase)
    (turn : Turn World Content Phase) :
    Turn World Content Phase × Option Outcome :=
  cleared id (awaitParts host) (cutPart host) host (turn.drainPool host)

/-- One round of a poll; without an outcome another round follows. -/
def round (host : Host World Content Phase)
    (turn : Turn World Content Phase) :
    Turn World Content Phase × Option Outcome :=
  turn.enter id (advance host) host

end Turn

end Multipart
