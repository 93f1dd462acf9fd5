import Multipart.Proofs.Counting.Tallied
import Multipart.Proofs.Waiting.Awaited

/-!
# The books of an upload

What is known of the parts of an upload is kept in several places: the
session counts the requests in flight, has a handle for each and numbers the
next part, the pool holds the requests, the cutter counts what it has cut, and
the receipts are in two tables.  Each of these is written at its own moment,
when a part is cut, sent, answered or cancelled, and yet they agree whenever a
step is done, until the upload resolves or fails.  The main statement is
`books_balance`.
-/

namespace Multipart

variable {World Content Phase : Type} {target : Target} {plan : Plan}
  {existing : PartTable Receipt} {host : Host World Content Phase}

/-! ## The handles of the requests in flight -/

namespace Upload

/--
Until it resolves or fails, an upload has a handle for each of its requests
and for nothing else.
-/
def Handled (upload : Upload Content Phase) : Prop :=
  upload.resolved = false → upload.session.verdict ≠ .failed →
    upload.session.handles.Perm upload.pool.numbers

namespace Handled

variable {upload later : Upload Content Phase}

/-- An upload that has resolved need not have any handles. -/
theorem of_resolved (resolved : upload.resolved = true) :
    upload.Handled := fun unresolved => by
  cases resolved.symm.trans unresolved

/-- An upload that fails leaves its handles behind. -/
theorem fail (host : Host World Content Phase)
    (upload : Upload Content Phase) (failure : Failure) :
    (upload.fail host failure).1.Handled := by
  rw [Upload.fail]
  cases upload.session.verdict with
  | running => exact fun _ judged => absurd rfl judged
  | paused => exact .of_resolved rfl
  | failed => exact .of_resolved rfl

/-- A pause cancels requests through their handles and takes none away. -/
theorem heard (handled : upload.Handled) (heard : Heard upload later) :
    later.Handled := by
  intro unresolved judged
  have handles : later.session.handles = upload.session.handles := by
    rw [heard.session]
  have before : upload.session.verdict ≠ .failed := by
    cases heard with
    | moved => exact judged
    | paused pool running =>
        rw [running]
        exact Verdict.noConfusion
  have named := handled (heard.resolved.symm.trans unresolved) before
  rw [handles]
  exact named.trans heard.numbers.symm

/-- The client's state of a request is no matter of its handle. -/
theorem setPhase (handled : upload.Handled) (number : PartNumber)
    (phase : Phase) :
    (upload.withPool (upload.pool.setPhase number phase)).Handled := by
  intro unresolved judged
  change upload.session.handles.Perm
    (upload.pool.setPhase number phase).numbers
  rw [Pool.numbers_setPhase]
  exact handled unresolved judged

/-- A request that resolves takes its handle along. -/
theorem settled (handled : upload.Handled)
    (distinct : upload.pool.numbers.Nodup) {number : PartNumber}
    (resolved : later.resolved = upload.resolved)
    (verdict : later.session.verdict = upload.session.verdict)
    (handles :
      later.session.handles = upload.session.handles.erase number)
    (pool : later.pool = upload.pool.remove number) :
    later.Handled := by
  intro unresolved judged
  rw [resolved] at unresolved
  rw [verdict] at judged
  rw [handles, pool, Pool.numbers_remove distinct]
  exact (handled unresolved judged).erase number

/-- A request that is sent has a handle of its own. -/
theorem sendPart (handled : upload.Handled)
    (host : Host World Content Phase) (body : Bytes)
    (fresh : upload.session.nextPart ∉ upload.pool.numbers) :
    (upload.sendPart host body).Handled := by
  rw [Upload.sendPart]
  dsimp only
  split
  · exact handled
  · intro unresolved judged
    have named := handled unresolved judged
    have unheld : upload.session.nextPart ∉ upload.session.handles :=
      fun member => fresh (named.mem_iff.mp member)
    change (upload.session.nextPart ::
      upload.session.handles.erase upload.session.nextPart).Perm _
    rw [List.erase_of_not_mem unheld]
    exact (named.cons _).trans
      (upload.pool.numbers_push (upload.nextFlight host body)).symm

end Handled

end Upload

/-- Every step of a poll keeps a handle for each request. -/
theorem Step.handled {place later : Place World Content Phase}
    {outcome : Option Outcome} (handled : place.upload.Handled)
    (sound : place.upload.Sound target plan existing)
    (step : Step host place later outcome) : later.upload.Handled := by
  have hears {Outcome : Type} (reply : Reply World Outcome) :
      (place.hear reply).upload.Handled :=
    handled.heard (place.heard reply)
  have asked {after : Place World Content Phase} {cutter : Cutter Content}
      {outcome : Cutter.Outcome}
      (polled :
        place.upload.cutter.poll host.source place =
          (after, cutter, outcome)) : after.upload.Handled :=
    handled.heard (Cutter.polled host polled).heard
  cases step with
  | withdrawn =>
      exact handled.settled sound.distinct rfl rfl rfl rfl
  | waiting opened front =>
      exact (handled.heard (Upload.heard_heardPart host front)).setPhase _ _
  | recalled opened front =>
      have heard := Upload.heard_heardPart host front
      exact ((handled.heard heard).setPhase _ _).settled
        ((sound.heard heard).setPhase _ _).distinct rfl rfl rfl rfl
  | received opened front =>
      have heard := Upload.heard_heardPart host front
      exact (handled.heard heard).settled (sound.heard heard).distinct
        rfl rfl rfl rfl
  | refused => exact .fail host _ _
  | resting => exact handled
  | starved may polled =>
      have held := asked polled
      exact held
  | @cut after cutter body may polled =>
      have cut := Cutter.polled host polled
      have still := sound.heard cut.heard
      have held : { after.upload with cutter }.Handled := asked polled
      refine held.sendPart host body fun member => ?_
      -- The next part has a larger number than any that was sent.
      obtain ⟨flight, flying, same⟩ := List.mem_map.mp member
      have below := (still.sent flight flying).2.1
      have next := still.next_toNat cut.follows cut.emitted
      rw [same] at below
      change after.upload.session.nextPart.toNat ≤ _ at below
      omega
  | spoiled => exact .fail host _ _
  | exhausted may polled =>
      have held := asked polled
      exact held
  | snapped may polled =>
      have held := asked polled
      exact held
  | closes => exact handled
  | stumbles => exact handled
  | parks => exact .of_resolved rfl
  | unclosed => exact .of_resolved rfl
  | closing => exact hears _
  | reopened => exact .of_resolved rfl
  | rejected => exact .fail host _ _
  | completes => exact .of_resolved rfl
  | collapsed => exact hears _
  | aborting => exact hears _
  | aborted => exact .of_resolved rfl

/-! ## Books that balance -/

/-- The books in which an upload may have a part. -/
inductive Book where
  /-- Parts that had a receipt from the beginning. -/
  | existing
  /-- Parts of which a receipt was recorded since. -/
  | recorded
  /-- Parts whose requests have not resolved. -/
  | pending

namespace Upload

/-- The parts that an upload has in a book. -/
def entries (upload : Upload Content Phase) : Book → List PartNumber
  | .existing => upload.session.progress.existing.numbers
  | .recorded => upload.session.progress.recorded.numbers
  | .pending => upload.pool.numbers

/-- Holds when all that an upload keeps of its parts agrees. -/
structure Balanced (upload : Upload Content Phase) : Prop where
  /-- What is counted as in flight are the requests of the pool, -/
  counted : upload.session.inFlight = upload.pool.size
  /-- there are as many handles, -/
  handled : upload.session.handles.length = upload.pool.size
  /-- and these are for the same parts, -/
  named : upload.session.handles.Perm upload.pool.numbers
  /-- each of which has only one. -/
  distinct : upload.session.handles.Nodup
  /-- Numbers are given to the parts that were cut, and do not wrap. -/
  next : upload.session.nextPart.toNat = upload.cutter.emitted + 1
  /--
  Numbers are counted from one, and of a running upload each part that was
  given a number is in just one book.
  -/
  once : upload.session.verdict = .running →
    ∀ number, 1 ≤ number.toNat →
      number.toNat < upload.session.nextPart.toNat →
        ∃! book, number ∈ upload.entries book
  /-- No part has been sent under another number. -/
  unsent : ∀ number,
    number.toNat = 0 ∨ upload.session.nextPart.toNat ≤ number.toNat →
      number ∉ upload.entries .recorded ∧
        number ∉ upload.entries .pending

end Upload

/-- What is known of an upload that keeps its books. -/
structure Booking (target : Target) (plan : Plan)
    (existing : PartTable Receipt)
    (place : Place (Recorded World) Content (Marked Phase)) : Prop where
  tallying : Tallying target plan existing place
  handled : place.upload.Handled

namespace Booking

variable {place later : Place (Recorded World) Content (Marked Phase)}

/-- No part is in two books. -/
theorem book_eq (booking : Booking target plan existing place)
    {number : PartNumber} {left right : Book}
    (member : number ∈ place.upload.entries left)
    (other : number ∈ place.upload.entries right) : left = right := by
  have sound := booking.tallying.accounted.sound
  have tallies := booking.tallying.tallied.tallies
  -- No part lands that had a receipt before, and none of these is sent.
  have recorded (new : number ∈ place.upload.entries .recorded) :
      existing.find? number = none :=
    (tallies.apart (tallies.recorded.mp (PartTable.mem_numbers.mp new))).2
  have pending (flying : number ∈ place.upload.entries .pending) :
      existing.find? number = none := by
    obtain ⟨flight, mem, rfl⟩ := List.mem_map.mp flying
    exact (sound.sent flight mem).2.2
  have apart (old : number ∈ place.upload.entries .existing) :
      existing.find? number ≠ none := by
    have found := PartTable.mem_numbers.mp old
    rwa [sound.existed] at found
  have landed (new : number ∈ place.upload.entries .recorded)
      (flying : number ∈ place.upload.entries .pending) : False :=
    PartTable.mem_numbers.mp new
      (booking.tallying.accounted.accounts.awaited number flying)
  cases left with
  | existing =>
      cases right with
      | existing => rfl
      | recorded => exact absurd (recorded other) (apart member)
      | pending => exact absurd (pending other) (apart member)
  | recorded =>
      cases right with
      | existing => exact absurd (recorded member) (apart other)
      | recorded => rfl
      | pending => exact (landed member other).elim
  | pending =>
      cases right with
      | existing => exact absurd (pending member) (apart other)
      | recorded => exact (landed other member).elim
      | pending => rfl

/-- A part that was cut is in a book as long as the upload is running. -/
theorem exists_book (booking : Booking target plan existing place)
    (unresolved : place.upload.resolved = false)
    (running : place.upload.session.verdict = .running)
    {number : PartNumber} (positive : 1 ≤ number.toNat)
    (within : number.toNat ≤ place.upload.cutter.emitted) :
    ∃ book, number ∈ place.upload.entries book := by
  have pending := booking.tallying.accounted.pending ⟨running, unresolved⟩
  rcases pending.covered number positive within with receipt | flying
  · rw [Progress.receipt?, ne_eq, Option.or_eq_none_iff, not_and_or]
      at receipt
    rcases receipt with old | new
    · exact ⟨.existing, PartTable.mem_numbers.mpr old⟩
    · exact ⟨.recorded, PartTable.mem_numbers.mpr new⟩
  · exact ⟨.pending, flying⟩

/-- Only parts that were cut have been sent. -/
theorem cut_of_sent (booking : Booking target plan existing place)
    {number : PartNumber}
    (sent : number ∈ place.upload.entries .recorded ∨
      number ∈ place.upload.entries .pending) :
    1 ≤ number.toNat ∧ number.toNat ≤ place.upload.cutter.emitted := by
  rcases sent with new | flying
  · have tallies := booking.tallying.tallied.tallies
    have recorded := PartTable.mem_numbers.mp new
    have contained := (tallies.apart (tallies.recorded.mp recorded)).1
    obtain ⟨receipt, found⟩ := Option.ne_none_iff_exists'.mp recorded
    exact ⟨(Plan.contains_iff.mp contained).1,
      (booking.tallying.accounted.accounts.recorded found).1⟩
  · obtain ⟨flight, mem, rfl⟩ := List.mem_map.mp flying
    have sent := booking.tallying.accounted.sound.sent flight mem
    exact ⟨sent.1, sent.2.1⟩

/-- If its plan is not too large, the books of an upload balance. -/
theorem balanced (booking : Booking target plan existing place)
    (small : plan.partCount.toNat < UInt32.size - 1)
    (unresolved : place.upload.resolved = false)
    (judged : place.upload.session.verdict ≠ .failed) :
    place.upload.Balanced := by
  have sound := booking.tallying.accounted.sound
  have named := booking.handled unresolved judged
  have next : place.upload.session.nextPart.toNat =
      place.upload.cutter.emitted + 1 := by
    -- One more than the last number of the plan is still a word.
    have bound := place.upload.cutter.emitted_le
    rw [sound.follows] at bound
    rw [sound.next, PartNumber.toNat_ofNat (by omega)]
  exact
    { counted := sound.counted unresolved judged
      handled := by
        rw [named.length_eq, Pool.numbers, List.length_map,
          Pool.length_flights]
      named
      distinct := named.nodup_iff.mpr sound.distinct
      next
      once := fun running number positive below => by
        obtain ⟨book, member⟩ :=
          booking.exists_book unresolved running positive (by omega)
        exact ⟨book, member, fun other mem => booking.book_eq mem member⟩
      unsent := fun number uncut => by
        have beyond : ¬ (1 ≤ number.toNat ∧
            number.toNat ≤ place.upload.cutter.emitted) := by omega
        exact ⟨fun new => beyond (booking.cut_of_sent (.inl new)),
          fun flying => beyond (booking.cut_of_sent (.inr flying))⟩ }

/-! ## Every run -/

/-- To begin with, only the receipts that were given are in a book. -/
theorem begin (world : World) (target : Target) (plan : Plan)
    (given : List Receipt) (limit : Option Nat) (content : Content) :
    Booking target plan
      (Progress.ofReceipts
        (given.filter fun receipt =>
          plan.contains receipt.number)).existing
      (Place.begin world (.ofPlan target plan given limit content) :
        Place (Recorded World) Content (Marked Phase)) where
  tallying := Tallying.begin world target plan given limit content
  handled _ _ := .refl []

theorem step (numbered : host.IsNumbered)
    (booking : Booking target plan existing place)
    (unresolved : place.upload.resolved = false)
    {outcome : Option Outcome}
    (step : Step host.recording place later outcome) :
    Booking target plan existing later where
  tallying := booking.tallying.step numbered unresolved step
  handled := step.handled booking.handled booking.tallying.accounted.sound

/-- Whatever is done with an upload, it keeps its books. -/
theorem keeps (numbered : host.IsNumbered) :
    Keeps host (Booking target plan existing)
      (Booking target plan existing) where
  activate booking unresolved :=
    ⟨(Tallying.keeps numbered).activate booking.tallying unresolved,
      booking.handled⟩
  step booking unresolved step := booking.step numbered unresolved step
  returns booking unresolved last :=
    ⟨(Tallying.keeps numbered).returns booking.tallying unresolved last,
      (booking.step numbered unresolved last).handled⟩
  again booking resolved :=
    ⟨(Tallying.keeps numbered).again booking.tallying resolved,
      booking.handled⟩
  pause booking :=
    ⟨(Tallying.keeps numbered).pause booking.tallying,
      booking.handled.heard (Upload.heard_pause _)⟩
  wake number booking :=
    ⟨(Tallying.keeps numbered).wake number booking.tallying,
      booking.handled.heard (Upload.heard_signal _ (.wakePart number))⟩
  change change booking :=
    ⟨(Tallying.keeps numbered).change change booking.tallying,
      booking.handled⟩
  feed feed booking :=
    ⟨(Tallying.keeps numbered).feed feed booking.tallying,
      booking.handled⟩

end Booking

/--
Where an upload may stand in a run: between two polls, in the middle of a poll
between two of its rounds, or inside a round between two of its steps.
-/
inductive Place.Reaches (host : Host World Content Phase)
    (begun : Place (Recorded World) Content (Marked Phase)) :
    Upload Content (Marked Phase) → Prop where
  | idle (moves : List (Move World Content)) :
      Reaches host begun (begun.replay host moves).upload
  | round (moves : List (Move World Content))
      {turn : Turn (Recorded World) Content (Marked Phase)}
      (unresolved : (begun.replay host moves).upload.resolved = false)
      (rounds :
        (Turn.activate
          { upload := (begun.replay host moves).upload
            world := (begun.replay host moves).world }).Rounds
          host.recording turn) :
      Reaches host begun turn.upload
  | step (moves : List (Move World Content))
      {place : Place (Recorded World) Content (Marked Phase)}
      (unresolved : (begun.replay host moves).upload.resolved = false)
      (steps :
        Steps host.recording (begun.replay host moves).activate place) :
      Reaches host begun place.upload

/-- The books are kept wherever an upload may stand. -/
theorem Booking.reaches (numbered : host.IsNumbered)
    {begun : Place (Recorded World) Content (Marked Phase)}
    (booking : Booking target plan existing begun)
    {upload : Upload Content (Marked Phase)}
    (reached : begun.Reaches host upload) :
    ∃ place : Place (Recorded World) Content (Marked Phase),
      place.upload = upload ∧ Booking target plan existing place := by
  have keeps : Keeps host (Booking target plan existing)
      (Booking target plan existing) := Booking.keeps numbered
  have during {moves : List (Move World Content)}
      {place : Place (Recorded World) Content (Marked Phase)}
      (unresolved : (begun.replay host moves).upload.resolved = false)
      (steps :
        Steps host.recording (begun.replay host moves).activate place) :
      Booking target plan existing place :=
    (keeps.steps
      (keeps.activate (keeps.replay booking moves) unresolved)
      unresolved steps).1
  cases reached with
  | idle moves => exact ⟨_, rfl, keeps.replay booking moves⟩
  | @round moves turn unresolved rounds =>
      have steps := rounds.steps
      rw [Turn.place_activate] at steps
      exact ⟨turn.place, rfl, during unresolved steps⟩
  | step moves unresolved steps => exact ⟨_, rfl, during unresolved steps⟩

/--
The books of an upload balance wherever it may stand until it resolves or
fails, on a client whose receipts carry the number that was asked for.  As
many requests are counted as the pool holds, there is one handle for each of
them, and the next number is one more than the number of parts that were cut;
for that the plan must have fewer parts than the largest number says.  While
the upload is running each part with a smaller number had its receipt from the
beginning, or has recorded it, or is pending, and only one of these.
-/
theorem books_balance (host : Host World Content Phase)
    (numbered : host.IsNumbered) (world : World) (target : Target)
    (plan : Plan) (small : plan.partCount.toNat < UInt32.size - 1)
    (given : List Receipt) (limit : Option Nat) (content : Content)
    {upload : Upload Content (Marked Phase)}
    (reached :
      (Place.begin world
        (.ofPlan target plan given limit content)).Reaches host upload)
    (unresolved : upload.resolved = false)
    (judged : upload.session.verdict ≠ .failed) : upload.Balanced := by
  obtain ⟨place, rfl, booking⟩ :=
    (Booking.begin world target plan given limit content).reaches numbered
      reached
  exact booking.balanced small unresolved judged

/-- A host that answers for every other part and lets all else wait. -/
def Host.patchy : Host Unit Bytes Unit where
  unsent _ := ()
  poll _ _ request _ :=
    { world := ()
      outcome :=
        match request with
        | .part _ number body =>
          if number.value % 2 = 1 then
            .finished (.ok
              { number, tag := ⟨"etag"⟩, size := UInt64.ofNat body.length })
          else
            .waiting ()
        | _ => .waiting () }
  size := List.length
  pull _ _ content := { world := (), outcome := .bytewise content }

theorem Host.isNumbered_patchy : Host.patchy.IsNumbered := by
  intro _ _ _ number body _ receipt answer
  change (if number.value % 2 = 1 then _ else _) = _ at answer
  split at answer
  · obtain rfl := Except.ok.inj (Response.finished.inj answer)
    rfl
  · cases answer

/-- An upload in seven parts, one at a time, two of which are there. -/
def Host.patchyPlace : Place (Recorded Unit) Bytes (Marked Unit) :=
  Place.begin ()
    (.ofPlan ⟨⟨"upload-1"⟩, .ofPair "bucket" "key"⟩ (.ofLength 7 1)
      promptGiven (some 1) [1, 2, 3, 4, 5, 6, 7])

/-- Its first poll on that host, after so many rounds. -/
def Host.patchyTurn : Nat → Turn (Recorded Unit) Bytes (Marked Unit)
  | 0 =>
    Turn.activate
      { upload := patchyPlace.upload, world := patchyPlace.world }
  | count + 1 => ((patchyTurn count).round patchy.recording).1

/-- These are the rounds of that poll as long as each has no outcome. -/
theorem Host.rounds_patchy (count : Nat)
    (goesOn : ∀ earlier < count,
      ((patchyTurn earlier).round patchy.recording).2.isNone = true) :
    (patchyTurn 0).Rounds patchy.recording (patchyTurn count) := by
  induction count with
  | zero => exact .refl
  | succ count ih =>
      have before := ih fun earlier less =>
        goesOn earlier (Nat.lt_succ_of_lt less)
      have last := goesOn count (Nat.lt_succ_self count)
      exact before.tail (Prod.ext rfl (Option.isNone_iff_eq_none.mp last))

/-- In the middle of that poll every book has an entry, and they balance. -/
theorem balance_patchy :
    let upload := (Host.patchyTurn 4).upload
    upload.entries .existing = [⟨2⟩, ⟨7⟩] ∧
      upload.entries .recorded = [⟨1⟩, ⟨3⟩] ∧
      upload.entries .pending = [⟨4⟩] ∧
      upload.session.handles = [⟨4⟩] ∧
      upload.session.nextPart = ⟨5⟩ ∧
      upload.Balanced := by
  intro upload
  refine ⟨by decide +kernel, by decide +kernel, by decide +kernel,
    by decide +kernel, by decide +kernel, ?_⟩
  exact books_balance Host.patchy Host.isNumbered_patchy () _ _
    (by decide +kernel) _ _ _
    (.round [] (by decide +kernel)
      (Host.rounds_patchy 4 (by decide +kernel)))
    (by decide +kernel) (by decide +kernel)

end Multipart
