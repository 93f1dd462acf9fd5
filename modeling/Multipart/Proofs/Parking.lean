import Multipart.Proofs.Carrying
import Multipart.Proofs.Pausing
import Multipart.Proofs.Upload.Keeping

/-!
# Nothing starts after a pause

Once a pause has handed out a checkpoint, every request of the upload is
cancelled where it stands, and whatever the upload was about to send is
cancelled before it is sent.  So no request is polled any more, neither for
the first time nor again; and if the pause came between two polls, then the
next poll ends the upload without asking the host for anything.  The main
statement is `parked_for_good`.
-/

namespace Multipart

variable {World Content Phase : Type} {target : Target} {plan : Plan}
  {existing : PartTable Receipt}

/-! ## Cancelled requests -/

/-- Holds when the part requests of a paused upload are cancelled. -/
def Upload.Cancels (upload : Upload Content Phase) : Prop :=
  upload.session.verdict = .paused →
    ∀ flight ∈ upload.pool.flights, flight.cancelled = true

namespace Upload.Cancels

variable {upload later : Upload Content Phase}

/-- Requests may resolve, and change otherwise. -/
theorem reduce (cancels : upload.Cancels)
    (verdict : later.session.verdict = upload.session.verdict)
    (flights : ∀ flight ∈ later.pool.flights,
      ∃ old ∈ upload.pool.flights, flight.cancelled = old.cancelled) :
    later.Cancels := by
  intro paused flight member
  rcases flights flight member with ⟨old, earlier, same⟩
  rw [same]
  exact cancels (verdict.symm.trans paused) old earlier

theorem heard (cancels : upload.Cancels) (heard : Heard upload later) :
    later.Cancels := by
  cases heard with
  | moved pool same =>
      exact cancels.reduce rfl fun flight member =>
        ⟨flight, same.mem_iff.mp member, rfl⟩
  | paused pool running unfinished same =>
      intro _ flight member
      rcases List.mem_map.mp (same.mem_iff.mp member) with ⟨old, _, rfl⟩
      rfl

theorem setPhase (cancels : upload.Cancels) (number : PartNumber)
    (phase : Phase) :
    (upload.withPool (upload.pool.setPhase number phase)).Cancels := by
  refine cancels.reduce rfl fun flight member => ?_
  change flight ∈ (upload.pool.setPhase number phase).flights at member
  rw [Pool.flights_setPhase] at member
  rcases List.mem_map.mp member with ⟨old, earlier, rfl⟩
  exact ⟨old, earlier, Pool.cancelled_setFlight _ _ _⟩

theorem settle (cancels : upload.Cancels) (number : PartNumber) :
    (upload.settle number).Cancels := by
  refine cancels.reduce rfl fun flight member => ?_
  change flight ∈ (upload.pool.remove number).flights at member
  rw [Pool.flights_remove] at member
  exact ⟨flight, (List.mem_filter.mp member).1, rfl⟩

/-- An upload without part requests has none to cancel. -/
theorem of_flights_eq_nil (none : upload.pool.flights = []) :
    upload.Cancels := by
  intro _ flight member
  rw [none] at member
  cases member

/-- What a paused upload sends is cancelled from the beginning. -/
theorem sendPart (cancels : upload.Cancels)
    (host : Host World Content Phase) (body : Bytes) :
    (upload.sendPart host body).Cancels := by
  rw [Upload.sendPart]
  dsimp only
  split
  · exact cancels
  · intro paused flight member
    change upload.session.verdict = .paused at paused
    rcases List.mem_cons.mp ((Pool.flights_push _ _).mem_iff.mp member) with
      rfl | old
    · simp [nextFlight, paused]
    · exact cancels paused flight old

end Upload.Cancels

/-! ## Every step leaves a paused upload still -/

/-- An upload is paused once a checkpoint was handed out, and not before. -/
def History.Parks (session : Session) (history : History) : Prop :=
  history.Handed ↔ session.verdict = .paused

theorem History.parks_nil {session : Session}
    (running : session.verdict = .running) : Parks session [] := by
  refine iff_of_false ?_ (by simp [running])
  rintro ⟨moment, member, _⟩
  cases member

theorem History.tells_parks : Tells History.Parks where
  note parks silent := by
    rw [Parks, History.handed_concat]
    exact (or_iff_left (not_not_intro silent)).trans parks
  pause {session history} parks := by
    rw [Parks, History.handed_concat]
    rcases session.pause_cases with
      ⟨answer, _⟩ | ⟨answer, _, paused⟩ | ⟨answer, _, _⟩
    · rw [answer]
      exact (or_iff_left (not_not_intro rfl)).trans parks
    · rw [answer]
      exact iff_of_true (.inr nofun) paused
    · rw [answer]
      exact iff_of_true (.inr nofun) rfl
  congr parks _ _ verdict := by
    rw [Parks, verdict]
    exact parks
  fail parks running := by
    refine iff_of_false (fun handed => ?_) nofun
    cases running.symm.trans (parks.mp handed)

/-- After a checkpoint no request is polled. -/
def Still (before : History) (next : Moment) : Prop :=
  before.Handed →
    ∀ request, next.event ≠ .sent request ∧ next.event ≠ .asked request

theorem Still.of_isHeard {before : History} {session : Session}
    {event : Event} (heard : event.isHeard = true) :
    Still before ⟨session, event⟩ := by
  intro _ request
  constructor <;> rintro rfl <;> cases heard

/-- What is known of a recorded upload that may have been paused. -/
structure Still.Kept (target : Target) (plan : Plan)
    (existing : PartTable Receipt)
    (place : Place (Recorded World) Content (Marked Phase)) : Prop where
  sound : place.upload.Sound target plan existing
  cancels : place.upload.Cancels
  parks : place.world.history.Parks place.upload.session
  still : place.world.history.Always Still

namespace Still.Kept

variable {host : Host World Content Phase}
  {place later : Place (Recorded World) Content (Marked Phase)}

/-- A request that may be polled is not that of a paused upload. -/
theorem running_of_polls (kept : Still.Kept target plan existing place)
    {request : Request} {marked : Marked Phase}
    (polls : place.upload.Polls request marked) :
    place.upload.session.verdict ≠ .paused := by
  intro paused
  cases polls with
  | part opened flying wanted =>
      cases wanted.symm.trans (kept.cancels paused _ flying)
  | closing unaborted closed wanted =>
      have closes := kept.sound.closing _ closed
      cases wanted.symm.trans (closes.cancelled paused)
  | abort begun =>
      have failed := kept.sound.aborting (by rw [begun]; rfl)
      cases paused.symm.trans failed

/-- Every step keeps the requests of a paused upload cancelled. -/
theorem cancels_step (kept : Still.Kept target plan existing place)
    {outcome : Option Outcome}
    (step : Step host.recording place later outcome) :
    later.upload.Cancels := by
  have cancels := kept.cancels
  have part {flight : Flight (Marked Phase)}
      {queued : List (Flight (Marked Phase))}
      (front : place.upload.pool.queued = flight :: queued) :=
    cancels.heard (Upload.heard_heardPart host.recording front)
  have cut {after : Place (Recorded World) Content (Marked Phase)}
      {cutter : Cutter Content} {outcome : Cutter.Outcome}
      (polled :
        place.upload.cutter.poll host.recording.source place =
          (after, cutter, outcome)) :=
    cancels.heard (Cutter.polled host.recording polled).heard
  have heard {Outcome : Type} (reply : Reply (Recorded World) Outcome) :=
    cancels.heard (place.heard reply)
  cases step with
  | withdrawn => exact cancels.settle _
  | waiting opened front => exact (part front).setPhase _ _
  | recalled opened front => exact ((part front).setPhase _ _).settle _
  | received opened front =>
      refine (part front).reduce rfl fun flight member => ?_
      change flight ∈ (Pool.remove _ _).flights at member
      rw [Pool.flights_remove] at member
      exact ⟨flight, (List.mem_filter.mp member).1, rfl⟩
  | refused =>
      exact .of_flights_eq_nil (Upload.flights_fail host.recording)
  | resting => exact cancels
  | starved may polled =>
      have still := cut polled
      exact still
  | cut may polled =>
      have still := cut polled
      apply Upload.Cancels.sendPart
      exact still
  | spoiled =>
      exact .of_flights_eq_nil (Upload.flights_fail host.recording)
  | exhausted may polled =>
      have still := cut polled
      exact still
  | snapped may polled =>
      have still := cut polled
      exact still
  | closes => exact cancels
  | stumbles => exact cancels
  | parks => exact .of_flights_eq_nil rfl
  | unclosed => exact .of_flights_eq_nil rfl
  | @closing closing => exact heard (host.recording.askClosing place closing)
  | reopened => exact .of_flights_eq_nil rfl
  | rejected =>
      exact .of_flights_eq_nil (Upload.flights_fail host.recording)
  | completes => exact .of_flights_eq_nil rfl
  | @collapsed closing =>
      exact heard (host.recording.askClosing place closing)
  | @aborting phase => exact heard (host.recording.askAbort place phase)
  | aborted => exact .of_flights_eq_nil rfl

theorem step (kept : Still.Kept target plan existing place)
    (unresolved : place.upload.resolved = false)
    {outcome : Option Outcome}
    (step : Step host.recording place later outcome) :
    Still.Kept target plan existing later where
  sound := kept.sound.step unresolved step
  cancels := kept.cancels_step step
  parks := History.tells_parks.step kept.parks step
  still :=
    kept.still.step (fun _ _ _ heard => .of_isHeard heard)
      (fun _ _ polls handed =>
        absurd (kept.parks.mp handed) (kept.running_of_polls polls))
      step

/-- A poll may return, whatever it comes to. -/
theorem returned (kept : Still.Kept target plan existing place)
    (outcome : Outcome) :
    Still.Kept target plan existing (place.note (.returned outcome)) where
  sound := kept.sound
  cancels := kept.cancels
  parks := History.tells_parks.note kept.parks rfl
  still :=
    History.always_concat kept.still fun _ _ => ⟨nofun, nofun⟩

/-- The requests of an upload stay still in every run. -/
theorem keeps (host : Host World Content Phase) :
    Keeps host (Still.Kept target plan existing)
      (Still.Kept target plan existing) where
  activate kept _ :=
    ⟨kept.sound.activate, kept.cancels, kept.parks, kept.still⟩
  step kept unresolved step := kept.step unresolved step
  returns kept unresolved last := (kept.step unresolved last).returned _
  again kept _ := kept.returned _
  pause {place} kept := by
    have heard := Upload.heard_pause place.upload
    exact
      { sound := kept.sound.heard heard
        cancels := kept.cancels.heard heard
        parks := History.tells_parks.hears.paused kept.parks
        still := History.always_concat kept.still (.of_isHeard rfl) }
  wake {place} number kept := by
    have heard := Upload.heard_signal place.upload (.wakePart number)
    exact
      { sound := kept.sound.heard heard
        cancels := kept.cancels.heard heard
        parks := by
          rw [Place.session_wake]
          exact kept.parks
        still := kept.still }
  change change kept :=
    ⟨kept.sound, kept.cancels, kept.parks, kept.still⟩
  feed feed kept :=
    ⟨kept.sound.feed feed, kept.cancels, kept.parks, kept.still⟩

end Still.Kept

/-! ## Uploads that are parked between polls -/

/-- Holds of a paused upload that has nothing left to poll. -/
structure Upload.Parked (upload : Upload Content Phase) : Prop where
  paused : upload.session.verdict = .paused
  unaborted : upload.abort = none
  cancelled : ∀ closing, upload.closing = some closing →
    closing.cancelled = true

namespace Upload

/-- A pause that hands out a checkpoint between two polls parks an upload. -/
theorem Sound.parked {upload : Upload Content Phase}
    (sound : upload.Sound target plan existing)
    (handed : upload.pause.2.1.checkpoint? ≠ none) :
    upload.pause.1.Parked := by
  have still := sound.heard (heard_pause upload)
  have paused : upload.pause.1.session.verdict = .paused := by
    rw [upload.session_pause.2] at handed
    rw [upload.session_pause.1]
    rcases upload.session.pause_cases with
      ⟨answer, _⟩ | ⟨answer, _, paused⟩ | ⟨answer, _, _⟩
    · rw [answer] at handed
      exact absurd rfl handed
    · rw [answer]
      exact paused
    · rw [answer]
  refine ⟨paused, ?_, fun closing closed =>
    (still.closing closing closed).cancelled paused⟩
  by_contra begun
  have failed := still.aborting (Option.isSome_iff_ne_none.mpr begun)
  cases paused.symm.trans failed

/-- The first round of a parked upload is its last, and asks for nothing. -/
theorem Parked.round {turn : Turn World Content Phase}
    (parked : turn.upload.Parked) (host : Host World Content Phase) :
    ∃ later failure,
      turn.round host = (later, some (.resolved (.error failure))) ∧
        later.world = turn.world ∧ later.upload.Parked := by
  rw [Turn.round, Turn.enter, parked.unaborted]
  cases closed : turn.upload.closing with
  | none =>
      dsimp only
      rw [if_pos parked.paused]
      exact ⟨_, _, rfl, rfl, parked.paused, parked.unaborted,
        parked.cancelled⟩
  | some closing =>
      dsimp only
      rw [Turn.awaitClosing, if_pos (parked.cancelled closing closed)]
      exact ⟨_, _, rfl, rfl, parked.paused, parked.unaborted,
        fun _ closed => by cases closed⟩

/-- Polling a parked upload leaves its surroundings as they are. -/
theorem Parked.poll {place : Place World Content Phase}
    (parked : place.upload.Parked) (host : Host World Content Phase) :
    (place.poll host).1.world = place.world ∧
      (place.poll host).1.upload.Parked := by
  cases resolved : place.upload.resolved with
  | true =>
      rw [Place.poll_of_resolved host resolved]
      exact ⟨rfl, parked⟩
  | false =>
      let turn : Turn World Content Phase :=
        { upload := place.upload, world := place.world }
      have activated : turn.activate.place = place.activate :=
        turn.place_activate
      have still : turn.activate.upload.Parked := by
        rw [show turn.activate.upload = place.activate.upload from
          congrArg Place.upload activated]
        exact ⟨parked.paused, parked.unaborted, parked.cancelled⟩
      obtain ⟨later, failure, went, world, ending⟩ := still.round host
      have rounds : turn.activate.rounds host =
          (later, .resolved (.error failure)) := by
        rw [Turn.rounds_eq, went]
      have polled : place.poll host =
          (later.place, .resolved (.error failure)) := by
        unfold Place.poll
        rw [place.upload.poll_of_unresolved host place.world resolved]
        dsimp only
        rw [rounds]
      rw [polled]
      refine ⟨world.trans ?_, ending⟩
      exact congrArg Place.world activated

/-- Whatever a parked upload hears, it stays parked. -/
theorem Parked.heard {upload later : Upload Content Phase}
    (parked : upload.Parked) (heard : Heard upload later) :
    later.Parked := by
  cases heard with
  | moved => exact ⟨parked.paused, parked.unaborted, parked.cancelled⟩
  | paused pool running => cases parked.paused.symm.trans running

end Upload

/-- The change that a move makes to the surroundings by itself. -/
def Move.alter (world : World) : Move World Content → World
  | .change effect => effect world
  | _ => world

/-- Holds of an event that involves neither the client nor the source. -/
def Event.IsIdle (event : Event) : Prop :=
  (∃ answer, event = .paused answer) ∨ ∃ outcome, event = .returned outcome

/-- Holds when surroundings have become others with nothing asked of them. -/
structure Recorded.Rests (before after : Recorded World) (world : World) :
    Prop where
  world : after.world = world
  history : ∃ moments, after.history = before.history ++ moments ∧
    ∀ moment ∈ moments, moment.event.IsIdle

namespace Recorded.Rests

variable {before after : Recorded World} {world : World}

/-- Nothing was asked if nothing was written down. -/
theorem of_history (same : after.history = before.history) :
    before.Rests after after.world :=
  ⟨rfl, [], by rw [same, List.append_nil], fun _ member => by cases member⟩

theorem trans {last : Recorded World} {other : World}
    (left : before.Rests after world) (right : after.Rests last other) :
    before.Rests last other := by
  rcases left.history with ⟨front, same, early⟩
  rcases right.history with ⟨back, again, late⟩
  refine ⟨right.world, front ++ back, ?_, ?_⟩
  · rw [again, same, List.append_assoc]
  · intro moment member
    exact (List.mem_append.mp member).elim (early moment) (late moment)

/-- An idle event may be written down. -/
theorem note (recorded : Recorded World) (session : Session)
    {event : Event} (idle : event.IsIdle) :
    recorded.Rests (recorded.note session event) recorded.world :=
  ⟨rfl, [⟨session, event⟩], rfl, fun moment member => by
    obtain rfl := List.mem_singleton.mp member
    exact idle⟩

end Recorded.Rests

namespace Upload.Parked

variable {place : Place (Recorded World) Content (Marked Phase)}

/-- Whatever is done with a parked upload, nothing is asked of its host. -/
theorem record (parked : place.upload.Parked)
    (host : Host World Content Phase) (move : Move World Content) :
    (place.record host move).upload.Parked ∧
      place.world.Rests (place.record host move).world
        (move.alter place.world.world) := by
  cases move with
  | poll =>
      rcases parked.poll host.recording with ⟨world, still⟩
      refine ⟨still, ?_⟩
      change place.world.Rests
        ((place.poll host.recording).1.world.note _ _) place.world.world
      rw [world]
      exact .note _ _ (.inr ⟨_, rfl⟩)
  | pause =>
      exact ⟨parked.heard (heard_pause _), .note _ _ (.inl ⟨_, rfl⟩)⟩
  | wake number =>
      exact ⟨parked.heard (heard_signal _ (.wakePart number)),
        .of_history rfl⟩
  | change effect => exact ⟨parked, .of_history rfl⟩
  | feed feed =>
      exact ⟨⟨parked.paused, parked.unaborted, parked.cancelled⟩,
        .of_history rfl⟩

theorem replay (parked : place.upload.Parked)
    (host : Host World Content Phase) (moves : List (Move World Content)) :
    place.world.Rests (place.replay host moves).world
      (moves.foldl Move.alter place.world.world) := by
  induction moves generalizing place with
  | nil => exact .of_history rfl
  | cons move moves ih =>
      rcases parked.record host move with ⟨still, rests⟩
      have later := ih still
      rw [rests.world] at later
      exact rests.trans later

end Upload.Parked

/--
After a pause that handed out a checkpoint no request of the upload is polled,
neither for the first time nor again.  If the pause came between two polls,
then all that happens afterwards is idle, and the surroundings change by the
moves of others alone.
-/
theorem parked_for_good (host : Host World Content Phase) (world : World)
    (target : Target) (plan : Plan) (given : List Receipt)
    (limit : Option Nat) (content : Content)
    (moves : List (Move World Content)) :
    let place :=
      (Place.begin world (.ofPlan target plan given limit content)).replay
        host moves
    (∀ before session answer after,
        place.world.history = before ++ ⟨session, .paused answer⟩ :: after →
        answer.checkpoint? ≠ none →
        ∀ moment ∈ after, ∀ request,
          moment.event ≠ .sent request ∧ moment.event ≠ .asked request) ∧
      (place.upload.pause.2.1.checkpoint? ≠ none →
        ∀ others,
          let later := (place.record host .pause).replay host others
          later.world.world = others.foldl Move.alter place.world.world ∧
            ∃ moments,
              later.world.history =
                  (place.record host .pause).world.history ++ moments ∧
                ∀ moment ∈ moments, moment.event.IsIdle) := by
  intro place
  have begun : Still.Kept target plan _
      (Place.begin world (.ofPlan target plan given limit content) :
        Place (Recorded World) Content (Marked Phase)) :=
    { sound := Upload.sound_ofPlan target plan given limit content
      cancels := .of_flights_eq_nil rfl
      parks := History.parks_nil rfl
      still := History.always_nil }
  have kept := (Still.Kept.keeps host).replay begun moves
  constructor
  · intro before session answer after split handed moment member
    rcases List.append_of_mem member with ⟨middle, rest, rfl⟩
    refine kept.still (before ++ ⟨session, .paused answer⟩ :: middle)
      moment rest ?_ ?_
    · rw [split, List.append_assoc, List.cons_append]
    · exact ⟨⟨session, .paused answer⟩, by simp, handed⟩
  · intro handed others
    have parked : (place.record host .pause).upload.Parked :=
      kept.sound.parked handed
    have rests := parked.replay host others
    exact ⟨rests.world, rests.history⟩

/-- A host that gives its content at once and answers no request. -/
def Host.mute : Host Unit Bytes Unit where
  unsent _ := ()
  poll _ _ _ _ := { world := (), outcome := .waiting () }
  size := List.length
  pull _ _ content := { world := (), outcome := .bytewise content }

/-- An upload in two parts on that host, after moves. -/
def Host.mutePlace (moves : List (Move Unit Bytes)) :
    Place (Recorded Unit) Bytes (Marked Unit) :=
  (Place.begin ()
    (.ofPlan ⟨⟨"upload-1"⟩, .ofPair "bucket" "key"⟩ (.ofLength 3 2) [] none
      [1, 2, 3])).replay mute moves

/-- On that host a pause finds requests in flight, and parks them. -/
theorem parked_mute :
    (∃ before session answer checkpoint after,
        (Host.mutePlace [.poll, .pause, .poll]).world.history =
            before ++ ⟨session, .paused answer⟩ :: after ∧
          answer.checkpoint? = some checkpoint ∧
          ∀ moment ∈ after, ∀ request,
            moment.event ≠ .sent request ∧
              moment.event ≠ .asked request) ∧
      (Host.mutePlace [.poll]).upload.session.inFlight = 2 ∧
      (Host.mutePlace [.poll]).upload.pause.2.1.checkpoint? ≠ none ∧
      ∀ others,
        ∃ moments,
          (((Host.mutePlace [.poll]).record .mute .pause).replay .mute
              others).world.history =
            ((Host.mutePlace [.poll]).record .mute .pause).world.history ++
              moments ∧
          ∀ moment ∈ moments, moment.event.IsIdle := by
  have parks (moves : List (Move Unit Bytes)) :=
    parked_for_good Host.mute () ⟨⟨"upload-1"⟩, .ofPair "bucket" "key"⟩
      (.ofLength 3 2) [] none [1, 2, 3] moves
  constructor
  · have handed :
        ((Host.mutePlace [.poll, .pause, .poll]).world.history.drop
          11).head?.any (·.event.checkpoint?.isSome) = true := by
      decide +kernel
    obtain ⟨session, answer, checkpoint, split, given⟩ :=
      History.split_at_checkpoint handed
    refine ⟨_, session, answer, checkpoint, _, split, given, ?_⟩
    exact (parks [.poll, .pause, .poll]).1 _ session answer _ split
      (by simp [given])
  · have handed :
        (Host.mutePlace [.poll]).upload.pause.2.1.checkpoint?.isSome =
          true := by
      decide +kernel
    have granted := Option.isSome_iff_ne_none.mp handed
    exact ⟨by decide +kernel, granted,
      fun others => ((parks [.poll]).2 granted others).2⟩

end Multipart
