import Multipart.Address
import Multipart.Rehearsal.Client
import Multipart.Upload.Rounds

/-!
# Playing a script

A script is a list of steps.  Each step is carried out on the stage and has
an answer; the events, the journal and the requests that were given up are
those of the step alone.
-/

namespace Multipart.Rehearsal

/-! ## Steps and their answers -/

/-- Where the checkpoint of a resumed upload comes from. -/
inductive CheckpointSource where
  /-- The last checkpoint that a pause of the slot gave. -/
  | ofSlot (slot : Nat)
  | written (text : String)
  | given (checkpoint : Checkpoint)

/-- The content of an upload, as a script says it. -/
inductive Source where
  | bytes (body : Bytes)
  | stream (length : Option UInt64) (chunks : List Chunk) (isOpen : Bool)

/-- The number of bytes of a chunk. -/
def Chunk.length : Chunk → Nat
  | .bytes body => body.length
  | _ => 0

/-- The length a source declares; by default, that of its bytes. -/
def Source.length : Source → UInt64
  | .bytes body => UInt64.ofNat body.length
  | .stream length chunks _ =>
    length.getD (UInt64.ofNat (chunks.foldl
      (fun length chunk => length + chunk.length) 0))

/-- The content of a source, for the upload in a slot. -/
def Source.content (slot : Nat) : Source → Content
  | .bytes body => { slot, chunks := [.bytes body], isSilent := true }
  | .stream _ chunks isOpen => { slot, chunks, isOpen }

/-- The step of a script. -/
inductive Step where
  | config (uploader : Uploader)
  | start (address : Address) (source : Source)
  | uploadWith (id : String) (address : Address) (source : Source)
      (existing : List Receipt)
  | resume (address : Address) (checkpoint : CheckpointSource)
      (source : Source)
  | feed (slot : Nat) (chunks : List Chunk) (close : Bool)
  | poll (slot : Nat)
  | run (slot : Nat)
  | pause (slot : Nat)
  | inspect (slot : Nat)
  | drop (slot : Nat)
  | rule (target : String) (rule : Rule) (hold : Bool)
  | release (target : String)
  | active
  | partNumbers (id : String)
  | object (address : Address)
  | create (address : Address)
  | put (id : String) (address : Address) (number : PartNumber)
      (body : Bytes)
  | complete (id : String) (address : Address) (receipts : List Receipt)
  | abort (id : String) (address : Address)
  | list (id : String) (address : Address)

/-- What can be seen inside an upload. -/
structure Inspection where
  state : State
  inFlight : Nat
  partsDone : Nat
  emitted : Nat
  received : UInt64
  finished : Bool
  pending : Nat
  capacity : Option Nat
  isClosing : Bool
  isAborting : Bool
  hasFailure : Bool

/-- The answer to a step. -/
inductive Answer where
  | nothing
  | flag (value : Bool)
  | count (value : Nat)
  | numbers (numbers : Option (List PartNumber))
  | object (object : Option StoredObject)
  | checkpoint (checkpoint : Option Checkpoint)
  | started (id : UploadId) (state : State) (length : UInt64)
  | inspected (inspection : Inspection)
  | polled (outcome : Outcome)
  | finished
  | stalled
  | noUpload
  | failed (failure : Failure)
  | answered (request : Request) (answer : request.Answer)
  | panicked (panic : Panic)

/-! ## Requests of their own -/

namespace Stage

/--
Poll a request that belongs to no upload.  It is given up where it waits at a
gate; where it gives way it has woken itself, and is served in the end.
-/
def ask (stage : Stage) (request : Request) :
    Stage × Option request.Conclusion :=
  let reply := stage.send none request
  match reply.outcome with
  | .waiting (.yielding _) =>
    let reply := reply.world.serve none request
    hear reply.world reply.outcome
  | response => hear reply.world response
where
  hear {request : Request} (stage : Stage) :
      Response Phase request → Stage × Option request.Conclusion
    | .finished answer => (stage, some (.ofExcept answer))
    | .panicked panic _ => (stage, some (.panicked panic))
    | .waiting phase => (stage.giveUp [(request, phase)], none)

/-- Carry out a step that is one request. -/
def askFor (stage : Stage) (address : Address)
    (request : Location → Request) : Stage × Answer :=
  match address.resolve with
  | .error failure => (stage, .failed failure)
  | .ok location =>
    match stage.ask (request location) with
    | (stage, none) => (stage, .stalled)
    | (stage, some conclusion) => (stage, told conclusion)
where
  told : {request : Request} → request.Conclusion → Answer
    | request, .ok answer => .answered request answer
    | _, .error failure => .failed failure
    | .complete _ _, .panicked panic => .panicked panic

/-! ## Beginning uploads -/

/-- An attempt to begin an upload that came to none. -/
def vacate (stage : Stage) (answer : Answer) : Stage × Answer :=
  (stage.addSlot .none, answer)

/-- Put a new upload in the next slot. -/
def begin (stage : Stage) (target : Target) (plan : Plan)
    (existing : List Receipt) (source : Source) : Stage × Answer :=
  let content := source.content stage.slots.size
  let upload : Upload Content Phase :=
    stage.uploader.upload target plan existing content
  (stage.addSlot (.upload upload),
    .started target.id upload.session.state source.length)

/-- Start an upload. -/
def start (stage : Stage) (address : Address) (source : Source) :
    Stage × Answer :=
  match address.resolve with
  | .error failure => stage.vacate (.failed failure)
  | .ok location =>
    match stage.uploader.startPlan source.length with
    | .error failure => stage.vacate (.failed failure)
    | .ok plan =>
      match stage.ask (.create location) with
      | (stage, none) => stage.vacate .stalled
      | (stage, some (.error failure)) => stage.vacate (.failed failure)
      | (stage, some (.ok target)) =>
        (stage.note [Uploader.createdEntry target plan]).begin
          target plan [] source

/-- The checkpoint that a script means, if there is one. -/
def checkpoint? (stage : Stage) :
    CheckpointSource → Option (Except Failure Checkpoint)
  | .ofSlot slot =>
    (stage.slots[slot]?.bind (·.checkpoint)).map Except.ok
  | .written text => some ((Checkpoint.ofJson text).map named)
  | .given checkpoint => some (.ok (named checkpoint))
where
  named (checkpoint : Checkpoint) : Checkpoint :=
    { checkpoint with id := idOfName stage.store checkpoint.id.text }

/-- Resume an upload. -/
def resume (stage : Stage) (address : Address) (source : Source)
    (checkpoint : Checkpoint) : Stage × Answer :=
  match address.resolve with
  | .error failure => stage.vacate (.failed failure)
  | .ok location =>
    match Uploader.resumePlan checkpoint source.length with
    | .error failure => stage.vacate (.failed failure)
    | .ok plan =>
      let target : Target := { id := checkpoint.id, location }
      let resumed (stage : Stage) (existing : List Receipt) :=
        (stage.note
          [Uploader.resumingEntry target checkpoint existing]).begin
            target plan existing source
      if (Uploader.listing? checkpoint target).isSome then
        match stage.ask (.list target) with
        | (stage, none) => stage.vacate .stalled
        | (stage, some (.error failure)) => stage.vacate (.failed failure)
        | (stage, some (.ok receipts)) => resumed stage receipts
      else
        resumed stage []

/-! ## Driving uploads -/

/-- Poll the upload of a slot once; tells whether its task was woken. -/
def pollUpload (stage : Stage) (slot : Nat)
    (upload : Upload Content Phase) :
    Stage × Upload Content Phase × Bool × Outcome :=
  let (turn, outcome) := upload.poll (host slot) stage
  let stage := turn.world.setOccupant slot (.upload turn.upload)
  let stage := stage.note turn.journal.toList
  (stage.giveUp turn.dropped, turn.upload, turn.woken, outcome)

/-- How often a phase still gives way. -/
def yieldsLeft : Phase → Nat
  | .unsent => 0
  | .held _ yields => yields
  | .yielding yields => yields
  | .broken => 0

/--
A bound on how often an upload can be woken by its own polls.  A request is
polled once when it is sent, once when it is released, and as often as it
gives way; a source gives way at most once for each chunk.
-/
def patience (stage : Stage) (upload : Upload Content Phase) : Nat :=
  let ruled := stage.rules.map fun entry => entry.2.yields
  let begun := upload.requests.map fun request => yieldsLeft request.2
  let yields := (ruled ++ begun).foldl max 0
  let parts :=
    upload.pool.size + upload.cutter.plan.partCount.toNat -
      upload.cutter.emitted
  (parts + 4) * (yields + 3) + upload.cutter.content.chunks.length + 4

/-- Poll an upload until it resolves or a poll has not woken its task. -/
def runUpload (slot : Nat) : (patience : Nat) → Stage →
    Upload Content Phase → Stage × Outcome
  | 0, stage, _ => (stage, .pending)
  | patience + 1, stage, upload =>
    match stage.pollUpload slot upload with
    | (stage, upload, true, .pending) =>
      runUpload slot patience stage upload
    | (stage, _, _, outcome) => (stage, outcome)

/-- Append chunks to the source of a slot. -/
def feed (stage : Stage) (slot : Nat) (chunks : List Chunk)
    (close : Bool) : Stage :=
  match stage.occupant slot with
  | .upload upload =>
    let content := upload.cutter.content
    if content.isSilent then
      stage
    else
      let content :=
        { content with
          chunks := content.chunks ++ chunks
          isOpen := content.isOpen && !close }
      let cutter := { upload.cutter with content }
      stage.setOccupant slot (.upload { upload with cutter })
  | _ => stage

/-- Pause the upload of a slot through its handle. -/
def pause (stage : Stage) (slot : Nat) : Stage × Answer :=
  let keep (stage : Stage) (checkpoint : Option Checkpoint) : Stage :=
    match checkpoint with
    | none => stage
    | some checkpoint =>
      { stage with
        slots :=
          stage.slots.modify slot ({ · with checkpoint }) }
  match stage.occupant slot with
  | .none => (stage, .noUpload)
  | .upload upload =>
    let (upload, answer, entries) := upload.pause
    let stage := (stage.setOccupant slot (.upload upload)).note entries
    let checkpoint := answer.checkpoint?
    (keep stage checkpoint, .checkpoint checkpoint)
  | .handle session =>
    let (session, answer) := session.pause
    let entries :=
      match answer with
      | .now _ => session.pauseEntries
      | _ => []
    let stage := (stage.setOccupant slot (.handle session)).note entries
    let checkpoint := answer.checkpoint?
    (keep stage checkpoint, .checkpoint checkpoint)

/-- What can be seen inside an upload. -/
def inspection (upload : Upload Content Phase) : Inspection where
  state := upload.session.state
  inFlight := upload.session.inFlight
  partsDone := upload.session.partsDone
  emitted := upload.cutter.emitted
  received := upload.cutter.received
  finished := upload.cutter.finished
  pending := upload.pool.size
  capacity := upload.capacity
  isClosing := upload.closing.isSome
  isAborting := upload.abort.isSome
  hasFailure := upload.failure.isSome

/-- Drop the upload of a slot and the requests it has in flight. -/
def drop (stage : Stage) (slot : Nat) : Stage :=
  match stage.occupant slot with
  | .upload upload =>
    (stage.setOccupant slot (.handle upload.session)).giveUp
      upload.requests
  | _ => stage

/-! ## The play -/

/-- Carry out one step. -/
def perform (stage : Stage) : Step → Stage × Answer
  | .config uploader => ({ stage with uploader }, .nothing)
  | .start address source => stage.start address source
  | .uploadWith id address source existing =>
    match address.resolve with
    | .error failure => stage.vacate (.failed failure)
    | .ok location =>
      let target : Target := { id := idOfName stage.store id, location }
      stage.begin target (stage.uploader.plan source.length)
        (existing.map (receiptOfName stage.store)) source
  | .resume address checkpoint source =>
    match stage.checkpoint? checkpoint with
    | none => stage.vacate .stalled
    | some (.error failure) => stage.vacate (.failed failure)
    | some (.ok checkpoint) => stage.resume address source checkpoint
  | .feed slot chunks close => (stage.feed slot chunks close, .nothing)
  | .poll slot =>
    match stage.occupant slot with
    | .upload upload =>
      let (stage, _, _, outcome) := stage.pollUpload slot upload
      (stage, .polled outcome)
    | _ => (stage, .noUpload)
  | .run slot =>
    match stage.occupant slot with
    | .upload upload =>
      if upload.resolved then
        (stage, .finished)
      else
        let (stage, outcome) :=
          runUpload slot (stage.patience upload) stage upload
        (stage, .polled outcome)
    | _ => (stage, .noUpload)
  | .pause slot => stage.pause slot
  | .inspect slot =>
    match stage.occupant slot with
    | .upload upload => (stage, .inspected (inspection upload))
    | _ => (stage, .noUpload)
  | .drop slot => (stage.drop slot, .nothing)
  | .rule target rule hold =>
    let stage := stage.setRule target rule
    (if hold then stage.hold target else stage, .nothing)
  | .release target =>
    let held := (stage.currentGate? target).isSome
    ((stage.release none target).stage, .flag held)
  | .active => (stage, .count stage.store.uploads.length)
  | .partNumbers id =>
    (stage,
      .numbers (stage.store.partNumbers? (idOfName stage.store id)))
  | .object address =>
    match address.resolve with
    | .error failure => (stage, .failed failure)
    | .ok location => (stage, .object (stage.store.object? location))
  | .create address => stage.askFor address .create
  | .put id address number body =>
    stage.askFor address fun location =>
      .part (target stage id location) number body
  | .complete id address receipts =>
    stage.askFor address fun location =>
      .complete (target stage id location)
        (receipts.map (receiptOfName stage.store))
  | .abort id address =>
    stage.askFor address fun location => .abort (target stage id location)
  | .list id address =>
    stage.askFor address fun location => .list (target stage id location)
where
  target (stage : Stage) (id : String) (location : Location) : Target :=
    { id := idOfName stage.store id, location }

/-- Forget what belongs to the step before. -/
def turnPage (stage : Stage) : Stage :=
  { stage with events := #[], journal := #[], cancelled := [] }

/-- Carry out the next step, on a stage that holds only what it brings. -/
def next (stage : Stage) (step : Step) : Stage × Answer :=
  stage.turnPage.perform step

/-- Shorter targets come first, and those of one length in their order. -/
def cancelledTargets (stage : Stage) : List String :=
  stage.cancelled.mergeSort fun left right =>
    left.length < right.length ∨
      (left.length = right.length ∧ left ≤ right)

end Stage

end Multipart.Rehearsal
