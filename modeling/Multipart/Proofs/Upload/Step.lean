import Mathlib.Logic.Relation
import Multipart.Proofs.Cutter.Polling
import Multipart.Proofs.Upload.Hearing
import Multipart.Upload.Rounds

/-!
# The steps of a poll

A poll of an upload is a chain of steps.  Each step polls one request, cuts
one part, or decides something without asking the host, and what it makes of
the upload and of its surroundings is written out here once for every case.
The main statement, `steps_poll`, says that a poll takes such steps and no
others; whatever each step keeps is therefore kept by every poll.
-/

namespace Multipart

variable {World Content Phase : Type}

/-- An upload with its surroundings. -/
structure Place (World Content Phase : Type) where
  world : World
  upload : Upload Content Phase

namespace Place

/-- The place after a reply of the host. -/
def hear {Outcome : Type} (place : Place World Content Phase)
    (reply : Reply World Outcome) : Place World Content Phase where
  world := reply.world
  upload := place.upload.hear reply.signals

theorem heard {Outcome : Type} (place : Place World Content Phase)
    (reply : Reply World Outcome) :
    Upload.Heard place.upload (place.hear reply).upload :=
  Upload.heard_hear place.upload reply.signals

/-- The place in which the upload has become another. -/
def become (place : Place World Content Phase)
    (upload : Upload Content Phase) : Place World Content Phase :=
  { place with upload }

@[simp]
theorem world_become (place : Place World Content Phase)
    (upload : Upload Content Phase) :
    (place.become upload).world = place.world :=
  rfl

end Place

/-! ## What becomes of an upload -/

namespace Upload

/-- The upload without a part request that has resolved. -/
def settle (upload : Upload Content Phase) (number : PartNumber) :
    Upload Content Phase :=
  { upload with
    pool := upload.pool.remove number
    session := upload.session.endPart number }

/-- The upload with the receipt of a part request that has succeeded. -/
def keep (upload : Upload Content Phase) (number : PartNumber)
    (receipt : Receipt) : Upload Content Phase :=
  { upload with
    pool := upload.pool.remove number
    session := (upload.session.record receipt).endPart number }

/-- The upload at its end, without the part requests that were left. -/
def resolve (upload : Upload Content Phase) : Upload Content Phase :=
  { upload with pool := {}, resolved := true }

/-- The upload on its way to failure, which waits for its abort. -/
def giveUp (host : Host World Content Phase)
    (upload : Upload Content Phase) (failure : Failure) :
    Upload Content Phase :=
  { upload with
    session := { upload.session with verdict := .failed }
    pool := {}
    closing := none
    failure := some failure
    abort := some (host.unsent (.abort upload.session.target)) }

/-- What a failure makes of an upload, and what the upload resolves with. -/
def fail (host : Host World Content Phase)
    (upload : Upload Content Phase) (failure : Failure) :
    Upload Content Phase × Option Outcome :=
  match upload.session.verdict with
  | .paused =>
    (upload.resolve,
      some (.resolved (.error upload.session.pausedFailure)))
  | .failed => (upload.resolve, some (.resolved (.error failure)))
  | .running => (upload.giveUp host failure, none)

/-- The request for the part that is cut next. -/
def nextFlight (host : Host World Content Phase)
    (upload : Upload Content Phase) (body : Bytes) : Flight Phase where
  number := upload.session.nextPart
  body
  phase :=
    host.unsent
      (.part upload.session.target upload.session.nextPart body)
  cancelled := upload.session.verdict ≠ .running

/-- The upload after a part was cut and passed over. -/
def skipPart (upload : Upload Content Phase) : Upload Content Phase :=
  { upload with session := upload.session.takeNumber.1 }

/-- The upload after a part was cut and sent, or passed over. -/
def sendPart (host : Host World Content Phase)
    (upload : Upload Content Phase) (body : Bytes) :
    Upload Content Phase :=
  let number := upload.session.nextPart
  if upload.session.progress.existing.contains number then
    upload.skipPart
  else
    { upload.skipPart with
      session := upload.skipPart.session.beginPart number
      pool := upload.pool.push (upload.nextFlight host body) }

/-- The upload once its source has ended. -/
def endSource (upload : Upload Content Phase) : Upload Content Phase :=
  { upload with session := { upload.session with sourceDone := true } }

/-- The upload that has begun to be completed. -/
def close (host : Host World Content Phase)
    (upload : Upload Content Phase) (receipts : List Receipt) :
    Upload Content Phase :=
  let session := { upload.session with completing := true }
  { upload with
    session
    closing :=
      some
        { receipts
          phase := host.unsent (.complete session.target receipts)
          cancelled := session.verdict = .paused } }

/-- The upload whose completion, if it has one, is in another phase. -/
def rephase (upload : Upload Content Phase) (phase : Phase) :
    Upload Content Phase :=
  { upload with closing := upload.closing.map ({ · with phase }) }

@[simp]
theorem isSome_closing_rephase (upload : Upload Content Phase)
    (phase : Phase) :
    (upload.rephase phase).closing.isSome = upload.closing.isSome :=
  Option.isSome_map

/-- The upload once its object was completed. -/
def complete (upload : Upload Content Phase) : Upload Content Phase :=
  { upload with
    session := { upload.session with completed := true }
    closing := none }

/-- Holds while parts are cut and sent. -/
structure IsOpen (upload : Upload Content Phase) : Prop where
  unaborted : upload.abort = none
  unclosed : upload.closing = none

/-- Whatever an upload hears, it stays open. -/
theorem IsOpen.heard {upload later : Upload Content Phase}
    (heard : Heard upload later) (opened : upload.IsOpen) :
    later.IsOpen := by
  cases heard with
  | moved pool same => exact ⟨opened.unaborted, opened.unclosed⟩
  | paused pool running unfinished same =>
      exact ⟨opened.unaborted, by simp [paused, opened.unclosed]⟩

/-- Holds while the next part may be cut. -/
structure MayCut (upload : Upload Content Phase) : Prop
    extends IsOpen upload where
  room : upload.hasRoom
  unfinished : upload.session.sourceDone = false

end Upload

/-! ## Steps -/

namespace Host

/-- The source of an upload, asked for buffers at a place. -/
def source (host : Host World Content Phase) :
    Stream (Place World Content Phase) Content where
  size := host.size
  pull place content :=
    let reply := host.pull place.world place.upload.session content
    (place.hear reply, reply.outcome)

/-- The reply to the request for a part. -/
def askPart (host : Host World Content Phase)
    (place : Place World Content Phase) (flight : Flight Phase) :
    Reply World
      (Response Phase
        (.part place.upload.session.target flight.number flight.body)) :=
  host.poll place.world place.upload.session
    (.part place.upload.session.target flight.number flight.body)
    flight.phase

/-- The reply to the request that completes an upload. -/
def askClosing (host : Host World Content Phase)
    (place : Place World Content Phase) (closing : Closing Phase) :
    Reply World
      (Response Phase
        (.complete place.upload.session.target closing.receipts)) :=
  host.poll place.world place.upload.session
    (.complete place.upload.session.target closing.receipts)
    closing.phase

/-- The reply to the request that aborts an upload. -/
def askAbort (host : Host World Content Phase)
    (place : Place World Content Phase) (phase : Phase) :
    Reply World
      (Response Phase (.abort place.upload.session.target)) :=
  host.poll place.world place.upload.session
    (.abort place.upload.session.target) phase

end Host

namespace Place

/-- The place after the request at the front of the queue was polled. -/
def heardPart (host : Host World Content Phase)
    (place : Place World Content Phase) (flight : Flight Phase)
    (queued : List (Flight Phase)) : Place World Content Phase :=
  let upload :=
    place.upload.withPool (place.upload.pool.polling flight queued)
  (place.become upload).hear (host.askPart place flight)

/-- The place in which an upload fails. -/
def fail (host : Host World Content Phase)
    (place : Place World Content Phase) (failure : Failure) :
    Place World Content Phase :=
  place.become (place.upload.fail host failure).1

end Place

/-- One step of a poll; with an outcome it is the last. -/
inductive Step (host : Host World Content Phase)
    (place : Place World Content Phase) :
    Place World Content Phase → Option Outcome → Prop where
  /-- A part request that was cancelled is taken out of the queue. -/
  | withdrawn {flight : Flight Phase} {queued : List (Flight Phase)}
      (opened : place.upload.IsOpen)
      (front : place.upload.pool.queued = flight :: queued)
      (cancelled : flight.cancelled = true) :
      Step host place
        (place.become (place.upload.settle flight.number)) none
  /-- A part request is polled and goes on waiting. -/
  | waiting {flight : Flight Phase} {queued : List (Flight Phase)}
      {phase : Phase}
      (opened : place.upload.IsOpen)
      (front : place.upload.pool.queued = flight :: queued)
      (wanted : flight.cancelled = false)
      (answer : (host.askPart place flight).outcome = .waiting phase) :
      Step host place
        ((place.heardPart host flight queued).become
          ((place.heardPart host flight queued).upload.withPool
            ((place.heardPart host flight queued).upload.pool.setPhase
              flight.number phase)))
        none
  /-- A part request is polled, and cancelled while that is done. -/
  | recalled {flight : Flight Phase} {queued : List (Flight Phase)}
      {phase : Phase}
      (opened : place.upload.IsOpen)
      (front : place.upload.pool.queued = flight :: queued)
      (wanted : flight.cancelled = false)
      (answer : (host.askPart place flight).outcome = .waiting phase)
      (cancelled :
        ∃ other ∈ (place.heardPart host flight queued).upload.pool.flights,
          other.number = flight.number ∧ other.cancelled = true) :
      Step host place
        ((place.heardPart host flight queued).become
          (((place.heardPart host flight queued).upload.withPool
            ((place.heardPart host flight queued).upload.pool.setPhase
              flight.number phase)).settle flight.number))
        none
  /-- A part request is polled and answered with a receipt. -/
  | received {flight : Flight Phase} {queued : List (Flight Phase)}
      {receipt : Receipt}
      (opened : place.upload.IsOpen)
      (front : place.upload.pool.queued = flight :: queued)
      (wanted : flight.cancelled = false)
      (answer :
        (host.askPart place flight).outcome = .finished (.ok receipt)) :
      Step host place
        ((place.heardPart host flight queued).become
          ((place.heardPart host flight queued).upload.keep
            flight.number receipt))
        none
  /-- A part request is polled and fails. -/
  | refused {flight : Flight Phase} {queued : List (Flight Phase)}
      {failure : Failure} {settled : Upload Content Phase}
      (opened : place.upload.IsOpen)
      (front : place.upload.pool.queued = flight :: queued)
      (wanted : flight.cancelled = false)
      (answer :
        (host.askPart place flight).outcome = .finished (.error failure))
      (left :
        settled =
          (place.heardPart host flight queued).upload.settle
            flight.number) :
      Step host place
        ((place.heardPart host flight queued).become
          (settled.fail host failure).1)
        (settled.fail host failure).2
  /-- Nothing can be cut or completed before something comes about. -/
  | resting (opened : place.upload.IsOpen)
      (idle :
        place.upload.hasRoom = false ∨
          place.upload.session.sourceDone = true) :
      Step host place place (some .pending)
  /-- The source has no buffer yet. -/
  | starved {after : Place World Content Phase} {cutter : Cutter Content}
      (may : place.upload.MayCut)
      (polled :
        place.upload.cutter.poll host.source place =
          (after, cutter, .pending)) :
      Step host place
        (after.become { after.upload with cutter }) (some .pending)
  /-- A part is cut, and sent unless the upload had it before. -/
  | cut {after : Place World Content Phase} {cutter : Cutter Content}
      {body : Bytes}
      (may : place.upload.MayCut)
      (polled :
        place.upload.cutter.poll host.source place =
          (after, cutter, .part body)) :
      Step host place
        (after.become
          ({ after.upload with cutter }.sendPart host body))
        none
  /-- The source fails, or gives too much or too little. -/
  | spoiled {after : Place World Content Phase} {cutter : Cutter Content}
      {failure : Failure}
      (may : place.upload.MayCut)
      (polled :
        place.upload.cutter.poll host.source place =
          (after, cutter, .failed failure)) :
      Step host place
        (after.become ({ after.upload with cutter }.fail host failure).1)
        ({ after.upload with cutter }.fail host failure).2
  /-- The source has ended after the last part. -/
  | exhausted {after : Place World Content Phase}
      {cutter : Cutter Content}
      (may : place.upload.MayCut)
      (polled :
        place.upload.cutter.poll host.source place =
          (after, cutter, .ended)) :
      Step host place
        (after.become { after.upload with cutter }.endSource) none
  /-- The cutter breaks off. -/
  | snapped {after : Place World Content Phase} {cutter : Cutter Content}
      {panic : Panic}
      (may : place.upload.MayCut)
      (polled :
        place.upload.cutter.poll host.source place =
          (after, cutter, .broken panic)) :
      Step host place
        (after.become { after.upload with cutter })
        (some (.faulted (.panicked panic)))
  /-- Every part has a receipt, and the upload begins to be completed. -/
  | closes {receipts : List Receipt}
      (opened : place.upload.IsOpen)
      (may : place.upload.session.mayComplete)
      (assembled :
        place.upload.session.progress.assemble
            place.upload.session.plan =
          .ok receipts) :
      Step host place
        (place.become (place.upload.close host receipts)) none
  /-- A part has no receipt when the upload is to be completed. -/
  | stumbles {number : PartNumber}
      (opened : place.upload.IsOpen)
      (may : place.upload.session.mayComplete)
      (missing :
        place.upload.session.progress.assemble
            place.upload.session.plan =
          .error number) :
      Step host place
        (place.become
          { place.upload with
            session := { place.upload.session with completing := true } })
        (some (.faulted
          (.noReceipt number place.upload.session.plan.partCount)))
  /-- An upload that was paused ends. -/
  | parks (opened : place.upload.IsOpen)
      (paused : place.upload.session.verdict = .paused) :
      Step host place (place.become place.upload.resolve)
        (some (.resolved (.error place.upload.session.pausedFailure)))
  /-- The request that completes the upload was cancelled. -/
  | unclosed {closing : Closing Phase}
      (unaborted : place.upload.abort = none)
      (closed : place.upload.closing = some closing)
      (cancelled : closing.cancelled = true) :
      Step host place
        (place.become { place.upload with closing := none }.resolve)
        (some (.resolved (.error place.upload.session.pausedFailure)))
  /-- The request that completes the upload goes on waiting. -/
  | closing {closing : Closing Phase} {phase : Phase}
      (unaborted : place.upload.abort = none)
      (closed : place.upload.closing = some closing)
      (wanted : closing.cancelled = false)
      (answer : (host.askClosing place closing).outcome = .waiting phase)
      (kept :
        (place.hear (host.askClosing place closing)).upload.closing.any
          (·.cancelled) = false) :
      Step host place
        ((place.hear (host.askClosing place closing)).become
          { (place.hear (host.askClosing place closing)).upload with
            closing := some { closing with phase } })
        (some .pending)
  /-- The request that completes the upload is cancelled in its own poll. -/
  | reopened {closing : Closing Phase} {phase : Phase}
      (unaborted : place.upload.abort = none)
      (closed : place.upload.closing = some closing)
      (wanted : closing.cancelled = false)
      (answer : (host.askClosing place closing).outcome = .waiting phase)
      (cancelled :
        (place.hear (host.askClosing place closing)).upload.closing.any
          (·.cancelled) = true) :
      Step host place
        ((place.hear (host.askClosing place closing)).become
          { (place.hear (host.askClosing place closing)).upload with
            closing := none }.resolve)
        (some (.resolved (.error
          (place.hear
            (host.askClosing place
              closing)).upload.session.pausedFailure)))
  /-- The request that completes the upload fails. -/
  | rejected {closing : Closing Phase} {failure : Failure}
      {bare : Upload Content Phase}
      (unaborted : place.upload.abort = none)
      (closed : place.upload.closing = some closing)
      (wanted : closing.cancelled = false)
      (answer :
        (host.askClosing place closing).outcome =
          .finished (.error failure))
      (left :
        bare =
          { (place.hear (host.askClosing place closing)).upload with
            closing := none }) :
      Step host place
        ((place.hear (host.askClosing place closing)).become
          (bare.fail host failure).1)
        (bare.fail host failure).2
  /-- The request that completes the upload succeeds. -/
  | completes {closing : Closing Phase} {completion : Completion}
      (unaborted : place.upload.abort = none)
      (closed : place.upload.closing = some closing)
      (wanted : closing.cancelled = false)
      (answer :
        (host.askClosing place closing).outcome =
          .finished (.ok completion)) :
      Step host place
        ((place.hear (host.askClosing place closing)).become
          (place.hear
            (host.askClosing place closing)).upload.complete.resolve)
        (some (.resolved (.ok completion)))
  /-- The request that completes the upload breaks off. -/
  | collapsed {closing : Closing Phase} {panic : Panic} {phase : Phase}
      (unaborted : place.upload.abort = none)
      (closed : place.upload.closing = some closing)
      (wanted : closing.cancelled = false)
      (answer :
        (host.askClosing place closing).outcome = .panicked panic phase) :
      Step host place
        ((place.hear (host.askClosing place closing)).become
          ((place.hear
            (host.askClosing place closing)).upload.rephase phase))
        (some (.faulted (.panicked panic)))
  /-- The abort goes on waiting. -/
  | aborting {phase later : Phase}
      (begun : place.upload.abort = some phase)
      (answer : (host.askAbort place phase).outcome = .waiting later) :
      Step host place
        ((place.hear (host.askAbort place phase)).become
          { (place.hear (host.askAbort place phase)).upload with
            abort := some later })
        (some .pending)
  /-- The abort has finished, with whatever answer. -/
  | aborted {phase : Phase} {answer : Except Failure Unit}
      (begun : place.upload.abort = some phase)
      (answered :
        (host.askAbort place phase).outcome = .finished answer) :
      Step host place
        ((place.hear (host.askAbort place phase)).become
          { (place.hear (host.askAbort place phase)).upload with
            abort := none, failure := none }.resolve)
        (some (.resolved (.error
          ((place.hear (host.askAbort place phase)).upload.failure.getD
            (place.hear
              (host.askAbort place phase)).upload.session.pausedFailure))))

end Multipart
