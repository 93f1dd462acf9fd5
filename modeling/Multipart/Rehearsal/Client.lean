import Multipart.Rehearsal.Stage

/-!
# The scripted client and the scripted source

A request is polled in phases.  When it is polled first it is sent, the
upload its rule names is paused, and a held target makes it wait.  Then it
gives way as often as its rule said.  When it is served at last the rule is
read anew: targets are released, and the failure or the answer of the rule
comes before the store's.
-/

namespace Multipart.Rehearsal

namespace Stage

/-- The task that waits for a request. -/
def taskOf (owner : Option Owner) (request : Request) : Option Task :=
  owner.map fun owner =>
    match request with
    | .part _ number _ => .part owner.slot number
    | _ => .driver owner.slot

/-- The signal of a request that wakes itself. -/
def selfWake : Request → Signal
  | .part _ number _ => .wakePart number
  | _ => .wakeDriver

/-- A receipt as the client reports it. -/
def amend (store : Store) (report : Report) (receipt : Receipt) :
    Receipt where
  number := report.number.getD receipt.number
  tag := (report.tag.map (tagOfName store)).getD receipt.tag
  checksums := report.checksums.getD receipt.checksums
  size := report.size.getD receipt.size

/-- What a rule answers in place of the store. -/
def returned (store : Store) (rule : Rule) :
    (request : Request) → Option request.Answer
  | .list _ =>
    rule.returns.map fun receipts => receipts.map (receiptOfName store)
  | .create _ => none
  | .part _ _ _ => none
  | .complete _ _ => none
  | .abort _ => none

/-- The answer as the client reports it, which concerns parts alone. -/
def reported (store : Store) (report : Report) :
    (request : Request) → request.Answer → request.Answer
  | .part _ _ _, receipt => amend store report receipt
  | .create _, answer => answer
  | .complete _ _, answer => answer
  | .abort _, answer => answer
  | .list _, answer => answer

/-- Answer a request: the rule comes before the store. -/
def answer (store : Store) (rule : Rule) (request : Request) :
    Store × request.Conclusion :=
  match rule.fail with
  | some failure => (store, .error failure)
  | none =>
    match returned store rule request with
    | some answer => (store, .ok answer)
    | none => store.serve request

/-- Tell what serving a request has come to. -/
def conclude (stage : Stage) (signals : List Signal) (report : Report) :
    {request : Request} → request.Conclusion →
      Reply Stage (Response Phase request)
  | request, .error failure =>
    { world := stage.emit (.refused request failure)
      signals
      outcome := .finished (.error failure) }
  | request, .ok answer =>
    let answer := reported stage.store report request answer
    { world := stage.emit (.answered request answer)
      signals
      outcome := .finished (.ok answer) }
  | .complete _ _, .panicked panic =>
    { world := stage, signals, outcome := .panicked panic .broken }

/-- Serve a request by its rule and the store. -/
def serve (stage : Stage) (owner : Option Owner) (request : Request) :
    Reply Stage (Response Phase request) :=
  let rule := stage.rule (targetOf request)
  let released := each (release · owner) stage rule.release
  let stage := released.stage
  let (store, conclusion) := answer stage.store rule request
  { stage with store }.conclude released.signals rule.report conclusion

/-- Let a request give way, or serve it when it has done so often enough. -/
def giveWay (stage : Stage) (owner : Option Owner) (request : Request) :
    (yields : Nat) → Reply Stage (Response Phase request)
  | 0 => stage.serve owner request
  | yields + 1 =>
    { world := stage
      signals := [selfWake request]
      outcome := .waiting (.yielding yields) }

/-- Let a request wait at a gate, or go on when the gate is open. -/
def pass (stage : Stage) (owner : Option Owner) (request : Request)
    (gate yields : Nat) : Reply Stage (Response Phase request) :=
  if stage.isClosed gate then
    { world := stage.await gate (taskOf owner request)
      outcome := .waiting (.held gate yields) }
  else
    stage.giveWay owner request yields

/-- Send a request. -/
def send (stage : Stage) (owner : Option Owner) (request : Request) :
    Reply Stage (Response Phase request) :=
  let target := targetOf request
  let stage := stage.emit (.sent request)
  let rule := stage.rule target
  let paused :=
    match rule.pause with
    | some slot => stage.pauseSlot owner slot
    | none => { stage }
  let reply :=
    match paused.stage.currentGate? target with
    | some gate =>
      paused.stage.pass owner request gate.serial rule.yields
    | none => paused.stage.giveWay owner request rule.yields
  { reply with signals := paused.signals ++ reply.signals }

/-- Poll a request that broke off, as only one that completes can. -/
def pollBroken (stage : Stage) :
    (request : Request) → Reply Stage (Response Phase request)
  | .complete _ _ =>
    { world := stage, outcome := .panicked .resumption .broken }
  | _ => { world := stage, outcome := .waiting .broken }

/-- Poll a request. -/
def pollRequest (stage : Stage) (owner : Option Owner)
    (request : Request) : Phase → Reply Stage (Response Phase request)
  | .unsent => stage.send owner request
  | .held gate yields => stage.pass owner request gate yields
  | .yielding yields => stage.giveWay owner request yields
  | .broken => stage.pollBroken request

/-! ## The source -/

/-- How much a scripted source may still give. -/
def sizeOf (content : Content) : Nat :=
  content.chunks.length

/-- Keep an event of a source, unless its content is held in memory. -/
def emitFor (stage : Stage) (content : Content) (event : Event) : Stage :=
  if content.isSilent then stage else stage.emit event

/--
Ask a source for a buffer.  Pauses on the way to it are carried out in the
same poll; the session is followed through them.
-/
def pullChunks (content : Content) (stage : Stage) (owner : Owner)
    (signals : List Signal) :
    (chunks : List Chunk) → chunks.length ≤ content.chunks.length →
      Reply Stage (Pull sizeOf content)
  | [], _ =>
    let rest := { content with chunks := [] }
    if content.isOpen then
      { world := stage, signals, outcome := .pending rest }
    else
      { world := stage.emitFor content (.ended content.slot)
        signals
        outcome := .ended rest }
  | .pause slot :: chunks, bound =>
    let paused := stage.pauseSlot (some owner) slot
    let session :=
      if owner.slot = slot then owner.session.pause.1 else owner.session
    pullChunks content paused.stage { owner with session }
      (signals ++ paused.signals) chunks (Nat.le_of_succ_le bound)
  | .yield :: chunks, _ =>
    { world := stage
      signals := signals ++ [.wakeDriver]
      outcome := .pending { content with chunks } }
  | .bytes body :: chunks, bound =>
    { world := stage.emitFor content (.pulled content.slot body.length)
      signals
      outcome := .item (.ok body) { content with chunks } bound }
  | .fail reason :: chunks, bound =>
    { world := stage.emitFor content (.pullFailed content.slot)
      signals
      outcome :=
        .item (.error (.content reason)) { content with chunks } bound }

/-- The host of the upload in a slot. -/
def host (slot : Nat) : Host Stage Content Phase where
  unsent _ := .unsent
  poll stage session request phase :=
    stage.pollRequest (some { slot, session }) request phase
  size := sizeOf
  pull stage session content :=
    stage.pullChunks content { slot, session } [] content.chunks
      (Nat.le_refl _)

end Stage

end Multipart.Rehearsal
