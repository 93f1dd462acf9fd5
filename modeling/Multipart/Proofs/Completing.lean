import Multipart.Proofs.Completing.Accounted
import Multipart.Proofs.Upload.Keeping
import Multipart.Uploader

/-!
# How an upload is completed

An upload is completed once at most, from one receipt for each part of its
plan.  The main statement, `assembled_completion`, is about every host that
answers a part request with a receipt of its number, and about every run.
-/

namespace Multipart

variable {World Content Phase : Type} {target : Target} {plan : Plan}
  {existing : PartTable Receipt}

/-! ## The request that completes an upload -/

/-- What holds when the request that completes an upload is sent. -/
structure Assembled (target : Target) (plan : Plan)
    (known : PartNumber → Option Receipt) (before : History)
    (session : Session) (aim : Target) (receipts : List Receipt) :
    Prop where
  aimed : aim = target
  /-- The source has ended, after every byte of the plan. -/
  ended : .ended ∈ before.events
  whole : (drawn before.events).length = plan.total
  clean : ∀ failure, .drew (.error failure) ∉ before.events
  /-- Every part request that was sent has succeeded. -/
  landed : ∀ {other number body},
    .sent (.part other number body) ∈ before.events →
      ∃ receipt,
        .answered (.part other number body) (.ok receipt) ∈ before.events
  idle : session.inFlight = 0
  numbers : receipts.map (·.number) = plan.numbers
  /-- Each part has the receipt it began with. -/
  kept : ∀ receipt ∈ receipts, ∀ {old},
    known receipt.number = some old → receipt = old
  /-- Every other part has the one answer to a request for it. -/
  gained : ∀ receipt ∈ receipts,
    known receipt.number = none →
      (∃ body,
        .answered (.part target receipt.number body) (.ok receipt) ∈
          before.events) ∧
      ∀ {other body answer},
        .answered (.part other receipt.number body) (.ok answer) ∈
            before.events →
          answer = receipt

/-- Only what is known of the parts of the plan counts. -/
theorem Assembled.congr {known other : PartNumber → Option Receipt}
    {before : History} {session : Session} {aim : Target}
    {receipts : List Receipt}
    (assembled : Assembled target plan known before session aim receipts)
    (same : ∀ number ∈ plan.numbers, known number = other number) :
    Assembled target plan other before session aim receipts := by
  have agree (receipt : Receipt) (listed : receipt ∈ receipts) :
      known receipt.number = other receipt.number := by
    apply same _
    rw [← assembled.numbers]
    exact List.mem_map_of_mem listed
  exact
    { assembled with
      kept := fun receipt listed old entry =>
        assembled.kept receipt listed ((agree receipt listed).trans entry)
      gained := fun receipt listed none =>
        assembled.gained receipt listed
          ((agree receipt listed).trans none) }

/-- What each moment of a run has to be like. -/
structure Orderly (target : Target) (plan : Plan)
    (existing : PartTable Receipt) (before : History) (moment : Moment) :
    Prop where
  closes : ∀ {aim receipts},
    moment.event = .sent (.complete aim receipts) →
      Assembled target plan existing.find? before moment.session aim
        receipts
  /-- No poll ends for want of a receipt. -/
  faultless : ∀ {number count},
    moment.event ≠ .returned (.faulted (.noReceipt number count))

namespace Accounted

variable {host : Host World Content Phase}
  {place : Place (Recorded World) Content (Marked Phase)}

/-- The request that completes an upload is sent when all is there. -/
theorem assembled (accounted : Accounted target plan existing place)
    (unresolved : place.upload.resolved = false)
    {closing : Closing (Marked Phase)}
    (closed : place.upload.closing = some closing)
    (wanted : closing.cancelled = false) :
    Assembled target plan existing.find? place.world.history
      place.upload.session place.upload.session.target
      closing.receipts := by
  have sound := accounted.sound
  have accounts := accounted.accounts
  have closes := sound.closing closing closed
  have running : place.upload.session.verdict = .running := by
    cases verdict : place.upload.session.verdict with
    | running => rfl
    | paused =>
        rw [closes.cancelled verdict] at wanted
        cases wanted
    | failed => exact absurd verdict closes.judged
  have pending := accounted.pending ⟨running, unresolved⟩
  rcases accounts.closing closing closed with ⟨done, each⟩
  rcases accounts.ended done with ⟨ended, whole⟩
  have member {event : Event} (fact : event.isFact = true) :
      event ∈ place.world.history.events ↔ event ∈ place.world.facts :=
    (History.mem_facts fact).symm
  -- The receipt of a part is what the progress of the upload has for it.
  have filed (receipt : Receipt) (listed : receipt ∈ closing.receipts) :
      place.upload.session.progress.receipt? receipt.number =
        some receipt := by
    have found : some receipt ∈
        plan.numbers.map place.upload.session.progress.receipt? := by
      rw [← each]
      exact List.mem_map_of_mem listed
    rcases List.mem_map.mp found with ⟨number, _, entry⟩
    rw [sound.filed.number_eq entry, entry]
  exact
    { aimed := sound.aimed
      ended := (member rfl).mpr ended
      whole := by
        rw [← History.drawn_facts]
        exact whole
      clean := fun failure drew =>
        pending.clean failure ((member rfl).mp drew)
      landed := fun sent => by
        rcases pending.sent ((member rfl).mp sent) with
          ⟨receipt, answered⟩ | ⟨_, flight, flying, _⟩
        · exact ⟨receipt, (member rfl).mpr answered⟩
        · rw [closes.alone] at flying
          cases flying
      idle := by
        rw [sound.counted unresolved closes.judged,
          ← Pool.length_flights, closes.alone]
        rfl
      numbers := closes.numbers
      kept := fun receipt listed old entry => by
        have found := filed receipt listed
        rw [Progress.receipt?, sound.existed, entry] at found
        exact (Option.some.inj found).symm
      gained := fun receipt listed none => by
        have found := filed receipt listed
        rw [Progress.receipt?, sound.existed, none,
          Option.none_or] at found
        rcases accounts.recorded found with ⟨_, body, answered⟩
        refine ⟨⟨body, (member rfl).mpr answered⟩, ?_⟩
        intro other body answer again
        have same := accounts.answered ((member rfl).mp again)
        exact Option.some.inj (same.symm.trans found) }

end Accounted

/-! ## Every moment is orderly -/

section Moments

variable {host : Host World Content Phase}
  {place : Place (Recorded World) Content (Marked Phase)}

/-- An event that sends nothing to complete and returns nothing may come. -/
theorem Orderly.of_quiet {before : History} {session : Session}
    {event : Event} (opened : event.closes = false)
    (running : ∀ outcome, event ≠ .returned outcome) :
    Orderly target plan existing before ⟨session, event⟩ where
  closes same := by
    change event = _ at same
    rw [same] at opened
    cases opened
  faultless := running _

/-- The history that surroundings have written down is orderly. -/
abbrev Recorded.IsOrderly (target : Target) (plan : Plan)
    (existing : PartTable Receipt) (recorded : Recorded World) : Prop :=
  recorded.history.Always (Orderly target plan existing)

/-- Every step is orderly. -/
theorem Recorded.IsOrderly.step
    (orderly : place.world.IsOrderly target plan existing)
    (accounted : Accounted target plan existing place)
    (unresolved : place.upload.resolved = false)
    {later : Place (Recorded World) Content (Marked Phase)}
    {outcome : Option Outcome}
    (step : Step host.recording place later outcome) :
    later.world.IsOrderly target plan existing := by
  refine History.Always.step orderly ?heard ?polls step
  case heard =>
    intro before session event heard
    cases event with
    | sent | asked | returned => cases heard
    | _ => exact .of_quiet rfl fun _ => Event.noConfusion
  case polls =>
    intro request marked polls
    rw [Marked.event]
    split
    · exact .of_quiet rfl fun _ => Event.noConfusion
    · cases polls with
      | part => exact .of_quiet rfl fun _ => Event.noConfusion
      | abort => exact .of_quiet rfl fun _ => Event.noConfusion
      | closing unaborted closed wanted =>
          refine ⟨fun same => ?_, Event.noConfusion⟩
          obtain ⟨rfl, rfl⟩ := Request.complete.inj (Event.sent.inj same)
          exact accounted.assembled unresolved closed wanted

end Moments

/-! ## Every run is orderly -/

/-- What is known of a recorded upload and its history. -/
structure Orderly.Kept (target : Target) (plan : Plan)
    (existing : PartTable Receipt)
    (place : Place (Recorded World) Content (Marked Phase)) : Prop where
  accounted : Accounted target plan existing place
  orderly : place.world.IsOrderly target plan existing

namespace Orderly.Kept

variable {place : Place (Recorded World) Content (Marked Phase)}

/-- An event that is no fact may be written down if it is orderly. -/
theorem note (kept : Orderly.Kept target plan existing place)
    {event : Event} (idle : event.isFact = false)
    (next : Orderly target plan existing place.world.history
      ⟨place.upload.session, event⟩) :
    Orderly.Kept target plan existing (place.note event) where
  accounted := kept.accounted.note idle
  orderly := History.always_concat kept.orderly next

theorem poll (host : Host World Content Phase)
    (numbered : host.IsNumbered)
    (kept : Orderly.Kept target plan existing place) :
    Orderly.Kept target plan existing (place.record host .poll) := by
  cases resolved : place.upload.resolved with
  | true =>
      have same := Place.poll_of_resolved host.recording resolved
      unfold Place.record
      dsimp only
      rw [same]
      exact kept.note rfl ⟨nofun, nofun⟩
  | false =>
      obtain ⟨middle, still, unresolved, last⟩ :=
        Place.poll_keeps (Orderly.Kept target plan existing)
          (fun kept unresolved step =>
            ⟨kept.accounted.step numbered unresolved step,
              kept.orderly.step kept.accounted unresolved step⟩)
          resolved
          ⟨kept.accounted.activate, kept.orderly⟩
      have done : Orderly.Kept target plan existing
          (place.poll host.recording).1 :=
        ⟨still.accounted.step numbered unresolved last,
          still.orderly.step still.accounted unresolved last⟩
      refine done.note rfl ⟨nofun, fun same => ?_⟩
      rw [Event.returned.inj same] at last
      exact still.accounted.faultless unresolved last

theorem record (host : Host World Content Phase)
    (numbered : host.IsNumbered)
    (kept : Orderly.Kept target plan existing place)
    (move : Move World Content) :
    Orderly.Kept target plan existing (place.record host move) := by
  cases move with
  | poll => exact kept.poll host numbered
  | pause =>
      have heard : Orderly.Kept target plan existing place.pause :=
        ⟨kept.accounted.heard (Upload.heard_pause _), kept.orderly⟩
      exact heard.note rfl (.of_quiet rfl nofun)
  | wake number =>
      exact ⟨kept.accounted.heard (Upload.heard_signal _ (.wakePart number)),
        kept.orderly⟩
  | change change => exact ⟨kept.accounted.change _, kept.orderly⟩
  | feed feed => exact ⟨kept.accounted.feed feed, kept.orderly⟩

theorem replay (host : Host World Content Phase)
    (numbered : host.IsNumbered)
    (kept : Orderly.Kept target plan existing place)
    (moves : List (Move World Content)) :
    Orderly.Kept target plan existing (place.replay host moves) := by
  induction moves generalizing place with
  | nil => exact kept
  | cons move moves ih => exact ih (kept.record host numbered move)

end Orderly.Kept

/--
An upload sends at most one request to be completed.  It sends it after its
source has ended and its part requests have succeeded, with one receipt for
each part of its plan: the last of those it was given for the part, or else
the one answer to a request for it.  No receipt is missing then.
-/
theorem assembled_completion (host : Host World Content Phase)
    (numbered : host.IsNumbered) (world : World) (uploader : Uploader)
    (target : Target) (plan : Plan) (given : List Receipt)
    (content : Content) (moves : List (Move World Content)) :
    let history :=
      ((Place.begin world
          (uploader.upload target plan given content)).replay
        host moves).world.history
    history.events.countP Event.closes ≤ 1 ∧
      (∀ before after session aim receipts,
        history =
            before ++ ⟨session, .sent (.complete aim receipts)⟩ :: after →
          Assembled target plan (Receipt.last? given) before session aim
            receipts) ∧
      ∀ number count,
        .returned (.faulted (.noReceipt number count)) ∉
          history.events := by
  intro history
  have begun : Orderly.Kept target plan _
      (Place.begin world (uploader.upload target plan given content) :
        Place (Recorded World) Content (Marked Phase)) :=
    ⟨Accounted.begin world target plan given uploader.limit content,
      History.always_nil⟩
  have kept := begun.replay host numbered moves
  refine ⟨?_, ?_, ?_⟩
  · rw [← History.countP_facts fun event closes => ?_]
    · exact kept.accounted.accounts.once
    · rcases Event.eq_of_closes closes with ⟨aim, receipts, rfl⟩
      rfl
  · intro before after session aim receipts split
    have next := kept.orderly before _ after split
    refine (next.closes rfl).congr fun number listed => ?_
    rw [Progress.find?_existing_ofReceipts,
      Receipt.last?_filter (Plan.mem_numbers.mp listed)]
  · intro number count member
    rcases List.mem_map.mp member with ⟨moment, listed, same⟩
    rcases List.append_of_mem listed with ⟨before, after, split⟩
    exact (kept.orderly before moment after split).faultless same

/-- A host that does at once whatever it is asked. -/
def Host.prompt : Host Unit Bytes Unit where
  unsent _ := ()
  poll _ _ request _ :=
    { world := ()
      outcome :=
        match request with
        | .part _ number body =>
          .finished (.ok
            { number, tag := ⟨"etag"⟩, size := UInt64.ofNat body.length })
        | .complete target _ =>
          .finished (.ok { location := target.location, tag := ⟨"etag"⟩ })
        | _ => .waiting () }
  size := List.length
  pull _ _ content := { world := (), outcome := .bytewise content }

theorem Host.isNumbered_prompt : Host.prompt.IsNumbered := by
  rintro _ _ _ number body _ receipt answer
  obtain rfl := Except.ok.inj (Response.finished.inj answer)
  rfl

/-- Receipts of which one is out of date and one for a part too many. -/
def Host.promptGiven : List Receipt :=
  [{ number := ⟨2⟩, tag := ⟨"old"⟩, size := 1 },
    { number := ⟨7⟩, tag := ⟨"none"⟩, size := 1 },
    { number := ⟨2⟩, tag := ⟨"new"⟩, size := 1 }]

/-- One poll on that host of an upload in two parts. -/
def Host.promptHistory : History :=
  ((Place.begin ()
      (({} : Uploader).upload ⟨⟨"upload-1"⟩, .ofPair "bucket" "key"⟩
        (.ofLength 3 2) promptGiven [1, 2, 3])).replay
          prompt [.poll]).world.history

/-- On that host the request that completes the upload is as it has to be. -/
theorem assembled_prompt :
    ∃ before session aim receipts after,
      Host.promptHistory =
          before ++ ⟨session, .sent (.complete aim receipts)⟩ :: after ∧
        Assembled ⟨⟨"upload-1"⟩, .ofPair "bucket" "key"⟩ (.ofLength 3 2)
          (Receipt.last? Host.promptGiven) before session aim receipts := by
  have sends : Host.promptHistory.any (·.event.closes) = true := by
    decide +kernel
  rcases List.any_eq_true.mp sends with ⟨⟨session, event⟩, member, closes⟩
  rcases Event.eq_of_closes closes with ⟨aim, receipts, rfl⟩
  rcases List.append_of_mem member with ⟨before, after, split⟩
  refine ⟨before, session, aim, receipts, after, split, ?_⟩
  exact (assembled_completion Host.prompt Host.isNumbered_prompt () {} _ _
    _ _ [.poll]).2.1 before after session aim receipts split

end Multipart
