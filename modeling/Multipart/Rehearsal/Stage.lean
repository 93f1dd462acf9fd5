import Multipart.Rehearsal.Names
import Multipart.Uploader

/-!
# The stage of a rehearsal

A rehearsal runs uploads against a store in memory through a client that
follows a script.  Rules say what the client does with the requests to a
target; a target can be held, and requests that come to a held target wait at
its gate until that gate is opened.  What happens is kept as events.
-/

namespace Multipart.Rehearsal

/-! ## The script -/

/-- How the client changes the receipt of a part. -/
structure Report where
  number : Option PartNumber := none
  tag : Option String := none
  size : Option UInt64 := none
  checksums : Option Checksums := none

/-- What the client does with the requests to a target. -/
structure Rule where
  /-- How often a request gives way before it is served. -/
  yields : Nat := 0
  /-- The slot whose upload is paused when a request comes. -/
  pause : Option Nat := none
  /-- The failure to answer with in place of the store. -/
  fail : Option Failure := none
  /-- The targets that are released when a request is served. -/
  release : List String := []
  /-- The receipts to answer a listing with in place of the store. -/
  returns : Option (List Receipt) := none
  report : Report := {}

/-- One thing a scripted source does. -/
inductive Chunk where
  | bytes (body : Bytes)
  | fail (reason : String)
  | pause (slot : Nat)
  | yield

/-- What a scripted source still does, and whether more may come. -/
structure Content where
  slot : Nat
  chunks : List Chunk
  isOpen : Bool := false
  /-- Content held in memory is not asked for in events. -/
  isSilent : Bool := false

/-! ## What the client keeps -/

/-- How far the client is with a request. -/
inductive Phase where
  | unsent
  /-- The request waits at a gate, and gives way so often after that. -/
  | held (gate : Nat) (yields : Nat)
  | yielding (yields : Nat)
  /-- The request broke off when it was served. -/
  | broken
deriving DecidableEq

/-- Holds when the request has been polled and may still be given up. -/
def Phase.isSent (phase : Phase) : Bool :=
  phase ≠ .unsent && phase ≠ .broken

/-- The task that waits for a request. -/
inductive Task where
  /-- The task of a part request of a slot. -/
  | part (slot : Nat) (number : PartNumber)
  /-- The task that drives the upload of a slot. -/
  | driver (slot : Nat)
deriving DecidableEq

/-- A gate that holds a target, with the tasks that wait in their order. -/
structure Gate where
  serial : Nat
  target : String
  /-- Holds for the gate that a release of the target opens. -/
  isCurrent : Bool := true
  waiting : List Task := []

/-- Where a request goes. -/
def targetOf : Request → String
  | .create _ => "create"
  | .part _ number _ => "part:" ++ toString number.toNat
  | .complete _ _ => "complete"
  | .abort _ => "abort"
  | .list _ => "list"

/-- What happens in a rehearsal. -/
inductive Event where
  | sent (request : Request)
  | answered (request : Request) (answer : request.Answer)
  | refused (request : Request) (failure : Failure)
  | pulled (slot : Nat) (bytes : Nat)
  | pullFailed (slot : Nat)
  | ended (slot : Nat)
  | paused (slot : Nat) (checkpoint : Option Checkpoint)

/-- What a slot holds. -/
inductive Occupant where
  /-- No upload came about. -/
  | none
  | upload (upload : Upload Content Phase)
  /-- The upload was dropped; its handle is left. -/
  | handle (session : Session)

/-- A slot, with the checkpoint of the last pause asked for by a step. -/
structure Slot where
  occupant : Occupant := .none
  checkpoint : Option Checkpoint := none

/-- The session of the upload in a slot. -/
def Slot.session? (slot : Slot) : Option Session :=
  match slot.occupant with
  | .none => none
  | .upload upload => some upload.session
  | .handle session => some session

/-- All that a rehearsal is about. -/
structure Stage where
  store : Store := {}
  uploader : Uploader := {}
  rules : List (String × Rule) := []
  gates : List Gate := []
  gatesMade : Nat := 0
  slots : Array Slot := #[]
  events : Array Event := #[]
  journal : Array Journal.Entry := #[]
  cancelled : List String := []

namespace Stage

/-- Keep an event. -/
def emit (stage : Stage) (event : Event) : Stage :=
  { stage with events := stage.events.push event }

/-- Write entries in the journal. -/
def note (stage : Stage) (entries : List Journal.Entry) : Stage :=
  { stage with journal := entries.foldl Array.push stage.journal }

/-- Keep the targets of the requests that were given up after they began. -/
def giveUp (stage : Stage) (requests : List (Request × Phase)) : Stage :=
  let begun := requests.filter fun request => request.2.isSent
  { stage with
    cancelled := begun.map (targetOf ·.1) ++ stage.cancelled }

/-- The rule for a target; without one a request is served at once. -/
def rule (stage : Stage) (target : String) : Rule :=
  match stage.rules.find? fun entry => entry.1 = target with
  | some entry => entry.2
  | none => {}

/-- Replace the rule for a target. -/
def setRule (stage : Stage) (target : String) (rule : Rule) : Stage :=
  { stage with
    rules :=
      (target, rule) ::
        stage.rules.filter fun entry => entry.1 ≠ target }

/-! ## Slots -/

/-- What a slot holds. -/
def occupant (stage : Stage) (slot : Nat) : Occupant :=
  match stage.slots[slot]? with
  | some slot => slot.occupant
  | none => .none

/-- Replace what a slot holds. -/
def setOccupant (stage : Stage) (slot : Nat) (occupant : Occupant) :
    Stage :=
  { stage with
    slots := stage.slots.modify slot ({ · with occupant }) }

/-- Add a slot. -/
def addSlot (stage : Stage) (occupant : Occupant) : Stage :=
  { stage with slots := stage.slots.push { occupant } }

/-- The upload that is being driven, with its session as it stands. -/
structure Owner where
  slot : Nat
  session : Session

/-- What came about on a stage, with the signals to the upload driven. -/
structure Happening where
  stage : Stage
  signals : List Signal := []

/-- Write entries in the journal, through the upload that is driven. -/
def noteFor (stage : Stage) (owner : Option Owner)
    (entries : List Journal.Entry) : Happening :=
  match owner with
  | some _ => { stage, signals := entries.map Signal.note }
  | none => { stage := stage.note entries }

/-- Pause the upload of a slot from inside a poll. -/
def pauseSlot (stage : Stage) (owner : Option Owner) (slot : Nat) :
    Happening :=
  match owner.filter (·.slot = slot) with
  | some owner =>
    let checkpoint := owner.session.pause.2.checkpoint?
    { stage := stage.emit (.paused slot checkpoint)
      signals := [.pause] }
  | none =>
    match stage.occupant slot with
    | .none => { stage }
    | .upload upload =>
      let (upload, answer, entries) := upload.pause
      let stage := stage.setOccupant slot (.upload upload)
      (stage.emit (.paused slot answer.checkpoint?)).noteFor owner entries
    | .handle session =>
      let (session, answer) := session.pause
      let entries :=
        match answer with
        | .now _ => session.pauseEntries
        | _ => []
      let stage := stage.setOccupant slot (.handle session)
      (stage.emit (.paused slot answer.checkpoint?)).noteFor owner entries

/-! ## Gates -/

/-- The gate that holds a target now. -/
def currentGate? (stage : Stage) (target : String) : Option Gate :=
  stage.gates.find? fun gate => gate.isCurrent && gate.target = target

/-- Holds while a gate is closed. -/
def isClosed (stage : Stage) (serial : Nat) : Bool :=
  stage.gates.any fun gate => gate.serial = serial

/-- Hold a target anew; no release opens an earlier gate of it any more. -/
def hold (stage : Stage) (target : String) : Stage :=
  let earlier := stage.gates.map fun gate =>
    if gate.target = target then { gate with isCurrent := false } else gate
  { stage with
    gates := { serial := stage.gatesMade, target } :: earlier
    gatesMade := stage.gatesMade + 1 }

/-- Let a task wait at a gate, once. -/
def await (stage : Stage) (serial : Nat) (task : Option Task) : Stage :=
  match task with
  | none => stage
  | some task =>
    { stage with
      gates := stage.gates.map fun gate =>
        if gate.serial = serial ∧ task ∉ gate.waiting then
          { gate with waiting := gate.waiting ++ [task] }
        else
          gate }

/-- Wake a task; one of the upload that is driven is woken by a signal. -/
def wake (stage : Stage) (owner : Option Owner) (task : Task) :
    Happening :=
  match task with
  | .driver slot =>
    if owner.any (·.slot = slot) then
      { stage, signals := [.wakeDriver] }
    else
      { stage }
  | .part slot number =>
    if owner.any (·.slot = slot) then
      { stage, signals := [.wakePart number] }
    else
      match stage.occupant slot with
      | .upload upload =>
        let pool := upload.pool.wake number
        { stage :=
            stage.setOccupant slot (.upload { upload with pool }) }
      | _ => { stage }

/-- Do one thing after another. -/
def each {α : Type} (act : Stage → α → Happening) (stage : Stage)
    (items : List α) : Happening :=
  items.foldl
    (fun before item =>
      let after := act before.stage item
      { after with signals := before.signals ++ after.signals })
    { stage }

/-- Open the gate that holds a target, and wake the tasks that wait there. -/
def release (stage : Stage) (owner : Option Owner) (target : String) :
    Happening :=
  match stage.currentGate? target with
  | none => { stage }
  | some gate =>
    let gates := stage.gates.filter fun other => other.serial ≠ gate.serial
    each (wake · owner) { stage with gates } gate.waiting

end Stage

end Multipart.Rehearsal
