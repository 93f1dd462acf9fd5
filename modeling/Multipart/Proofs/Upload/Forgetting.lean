import Multipart.Proofs.Upload.Recording

/-!
# Writing down a run does not change it

A recorded host adds to its surroundings and marks the requests that have
been sent, and an upload looks at neither.  So a recorded run, with all that
was written down forgotten again, is the run on the host itself.  The main
statement, `bare_replay`, is about every sequence of moves.
-/

namespace Multipart

variable {World Content Phase : Type}

/-! ## Requests without their marks -/

/-- A part request without its mark. -/
def Flight.bare (flight : Flight (Marked Phase)) : Flight Phase where
  number := flight.number
  body := flight.body
  phase := flight.phase.phase
  cancelled := flight.cancelled

@[simp]
theorem Flight.number_bare (flight : Flight (Marked Phase)) :
    flight.bare.number = flight.number :=
  rfl

@[simp]
theorem Flight.cancelled_bare (flight : Flight (Marked Phase)) :
    flight.bare.cancelled = flight.cancelled :=
  rfl

/-- The request that completes an upload, without its mark. -/
def Closing.bare (closing : Closing (Marked Phase)) : Closing Phase where
  receipts := closing.receipts
  phase := closing.phase.phase
  cancelled := closing.cancelled

namespace Pool

/-- Part requests without their marks. -/
def bare (pool : Pool (Marked Phase)) : Pool Phase where
  queued := pool.queued.map Flight.bare
  idle := pool.idle.map Flight.bare

variable (pool : Pool (Marked Phase)) (number : PartNumber)

@[simp]
theorem flights_bare : pool.bare.flights = pool.flights.map Flight.bare := by
  simp [flights, bare]

@[simp]
theorem size_bare : pool.bare.size = pool.size := by
  simp [size, bare]

@[simp]
theorem isEmpty_bare : pool.bare.isEmpty = pool.isEmpty := by
  simp [isEmpty, bare]

@[simp]
theorem isQueued_bare : pool.bare.isQueued number = pool.isQueued number := by
  exact List.any_map

@[simp]
theorem isIdle_bare : pool.bare.isIdle number = pool.isIdle number := by
  exact List.any_map

theorem find?_bare :
    pool.bare.find? number = (pool.find? number).map Flight.bare := by
  rw [find?, flights_bare]
  exact List.find?_map

theorem bare_wake : (pool.wake number).bare = pool.bare.wake number := by
  simp only [wake, bare, List.partition_eq_filter_filter,
    List.filter_map, List.map_append]
  rfl

theorem bare_cancelAll : pool.cancelAll.bare = pool.bare.cancelAll := by
  simp [cancelAll, bare, flights, Function.comp_def, Flight.bare]

theorem bare_remove :
    (pool.remove number).bare = pool.bare.remove number := by
  simp only [remove, bare, List.filter_map]
  rfl

theorem bare_setPhase (marked : Marked Phase) :
    (pool.setPhase number marked).bare =
      pool.bare.setPhase number marked.phase := by
  have set (flights : List (Flight (Marked Phase))) :
      (flights.map fun flight =>
          if flight.number = number then { flight with phase := marked }
          else flight).map Flight.bare =
        (flights.map Flight.bare).map fun flight =>
          if flight.number = number then
            { flight with phase := marked.phase }
          else flight := by
    rw [List.map_map, List.map_map]
    refine List.map_congr_left fun flight _ => ?_
    by_cases same : flight.number = number <;>
      simp [same, Flight.bare]
  simp only [setPhase, bare, set]

theorem bare_push (flight : Flight (Marked Phase)) :
    (pool.push flight).bare = pool.bare.push flight.bare := by
  simp [push, bare]

end Pool

/-! ## Uploads without marks -/

namespace Upload

/-- An upload whose requests have lost their marks. -/
def bare (upload : Upload Content (Marked Phase)) :
    Upload Content Phase where
  session := upload.session
  cutter := upload.cutter
  pool := upload.pool.bare
  capacity := upload.capacity
  closing := upload.closing.map Closing.bare
  abort := upload.abort.map Marked.phase
  failure := upload.failure
  resolved := upload.resolved

theorem hasRoom_bare (upload : Upload Content (Marked Phase)) :
    upload.bare.hasRoom = upload.hasRoom := by
  unfold hasRoom bare
  dsimp only
  rw [Pool.size_bare]

/-- A pause looks at no marks. -/
theorem pause_bare (upload : Upload Content (Marked Phase)) :
    upload.bare.pause =
      (upload.pause.1.bare, upload.pause.2.1, upload.pause.2.2) := by
  rw [pause, pause]
  have session : upload.bare.session = upload.session := rfl
  rw [session]
  cases upload.session.pause with
  | mk session answer =>
      cases answer with
      | refused => rfl
      | again checkpoint => rfl
      | now checkpoint =>
          simp [bare, Pool.bare_cancelAll, Function.comp_def, Closing.bare]

end Upload

/-! ## Turns without what was written down -/

namespace Turn

/-- A turn in which nothing was written down. -/
def bare (turn : Turn (Recorded World) Content (Marked Phase)) :
    Turn World Content Phase where
  upload := turn.upload.bare
  world := turn.world.world
  woken := turn.woken
  journal := turn.journal
  dropped := turn.dropped.map fun request => (request.1, request.2.phase)

variable (turn : Turn (Recorded World) Content (Marked Phase))

@[simp]
theorem session_bare : turn.bare.upload.session = turn.upload.session :=
  rfl

@[simp]
theorem pool_bare : turn.bare.upload.pool = turn.upload.pool.bare :=
  rfl

theorem bare_pauseHere : turn.pauseHere.bare = turn.bare.pauseHere := by
  rw [pauseHere, pauseHere]
  have asked : turn.bare.upload.pause = turn.upload.bare.pause := rfl
  rw [asked, turn.upload.pause_bare]
  generalize turn.upload.pause = asked
  rcases asked with ⟨upload, answer, entries⟩
  cases answer <;> rfl

theorem bare_withPool (pool : Pool (Marked Phase)) :
    (turn.withPool pool).bare = turn.bare.withPool pool.bare :=
  rfl

theorem bare_signal (signal : Signal) :
    (turn.signal signal).bare = turn.bare.signal signal := by
  cases signal with
  | pause => exact turn.bare_pauseHere
  | wakePart number =>
      have same := turn.upload.pool.isIdle_bare number
      have woken := turn.upload.pool.bare_wake number
      change (if _ then _ else _ : Turn _ _ _).bare =
        if turn.upload.pool.bare.isIdle number then
          (turn.bare.withPool (turn.upload.pool.bare.wake number)).wake
        else turn.bare
      rw [same, ← woken]
      split <;> rfl
  | wakeDriver => rfl
  | note entry => rfl

theorem bare_receive (signals : List Signal) :
    (turn.receive signals).bare = turn.bare.receive signals := by
  induction signals generalizing turn with
  | nil => rfl
  | cons first signals ih =>
      apply (ih (turn.signal first)).trans
      rw [turn.bare_signal]
      rfl

theorem bare_hear {Outcome Other : Type}
    {reply : Reply (Recorded World) Outcome} {other : Reply World Other}
    (world : reply.world.world = other.world)
    (signals : reply.signals = other.signals) :
    (turn.hear reply).bare = turn.bare.hear other := by
  rw [hear]
  rw [bare_receive, signals]
  congr 1
  rw [← world]
  rfl

variable (host : Host World Content Phase)

/-- What is heard of a request is heard without its mark as well. -/
theorem bare_hear_poll (session : Session) (request : Request)
    (marked : Marked Phase) :
    (turn.hear (host.recording.poll turn.world session request
        marked)).bare =
      turn.bare.hear
        (host.poll turn.world.world session request marked.phase) :=
  turn.bare_hear (Recorded.world_witness _ _ _ _ _) rfl

theorem bare_drop (flight : Flight (Marked Phase)) :
    (turn.drop flight).bare = turn.bare.drop flight.bare := by
  have removed := turn.upload.pool.bare_remove flight.number
  simp only [drop, bare, withPool, Upload.bare, removed]
  rfl

theorem bare_hear_askPart (flight : Flight (Marked Phase))
    (queued : List (Flight (Marked Phase))) :
    ((turn.withPool (turn.upload.pool.polling flight queued)).hear
        (host.recording.askPart turn.place flight)).bare =
      (turn.bare.withPool
        (turn.bare.upload.pool.polling flight.bare
          (queued.map Flight.bare))).hear
        (host.askPart turn.bare.place flight.bare) := by
  have same :
      (turn.withPool (turn.upload.pool.polling flight queued)).bare =
        turn.bare.withPool
          (turn.bare.upload.pool.polling flight.bare
            (queued.map Flight.bare)) := by
    rw [turn.bare_withPool]
    simp [Pool.polling, Pool.bare, bare, Upload.bare]
  rw [← same]
  exact bare_hear_poll _ host _ _ _

/-- Polling a request does not depend on its mark. -/
theorem pollFlight_bare (flight : Flight (Marked Phase))
    (queued : List (Flight (Marked Phase))) :
    turn.bare.pollFlight host flight.bare (queued.map Flight.bare) =
      (turn.pollFlight host.recording flight queued).map bare id := by
  rw [pollFlight_eq, pollFlight_eq, ← bare_hear_askPart]
  generalize (turn.withPool
    (turn.upload.pool.polling flight queued)).hear
      (host.recording.askPart turn.place flight) = later
  have marked :
      (host.recording.askPart turn.place flight).outcome =
        (host.askPart turn.bare.place flight.bare).outcome.mark :=
    rfl
  rw [marked]
  cases (host.askPart turn.bare.place flight.bare).outcome with
  | finished result =>
      have removed := later.upload.pool.bare_remove flight.number
      exact congrArg
        (fun pool =>
          (later.bare.withPool pool,
            Landing.landed flight.number (some result)))
        removed.symm
  | waiting phase =>
      have put :
          (later.withPool (later.upload.pool.setPhase flight.number
              { phase, begun := true })).bare =
            later.bare.withPool
              (later.bare.upload.pool.setPhase flight.number phase) := by
        rw [later.bare_withPool, Pool.bare_setPhase]
        rfl
      dsimp only [Response.mark]
      rw [Flight.number_bare, ← put]
      generalize later.withPool (later.upload.pool.setPhase flight.number
        { phase, begun := true }) = kept
      rw [kept.pool_bare, Pool.find?_bare]
      cases kept.upload.pool.find? flight.number with
      | none => rfl
      | some other =>
          dsimp only [Option.map]
          rw [← bare_drop, Flight.cancelled_bare]
          split <;> rfl
  | panicked panic => exact Empty.elim panic

/-- Nor does polling the pool depend on the marks. -/
theorem pollPool_bare (remaining yields : Nat) :
    turn.bare.pollPool host remaining yields =
      (turn.pollPool host.recording remaining yields).map bare id := by
  induction remaining generalizing turn yields with
  | zero =>
      rw [pollPool, pollPool]
      rw [pool_bare, Pool.isEmpty_bare]
      split <;> rfl
  | succ remaining ih =>
      have front : turn.bare.upload.pool.queued =
          turn.upload.pool.queued.map Flight.bare :=
        rfl
      rw [pollPool, pollPool]
      rw [front]
      cases turn.upload.pool.queued with
      | nil =>
          dsimp only [List.map]
          rw [pool_bare, Pool.isEmpty_bare]
          split <;> rfl
      | cons flight queued =>
          dsimp only [List.map]
          rw [← bare_drop, pollFlight_bare, Flight.cancelled_bare]
          split
          · rfl
          · generalize turn.pollFlight host.recording flight queued = polled
            rcases polled with ⟨later, landing⟩
            cases landing with
            | empty => rfl
            | landed number result => rfl
            | pending =>
                dsimp only [Prod.map, id]
                rw [Flight.number_bare, pool_bare, Pool.isQueued_bare, ih]
                split
                · split <;> rfl
                · split <;> rfl

theorem land_bare (number : PartNumber)
    (result : Option (Except Failure Receipt)) :
    turn.bare.land number result =
      (turn.land number result).map bare id := by
  rcases result with _ | _ | _ <;> rfl

theorem drainOnce_bare :
    turn.bare.drainOnce host =
      (turn.drainOnce host.recording).map bare id := by
  rw [drainOnce, drainOnce]
  rw [pool_bare, Pool.size_bare, pollPool_bare]
  generalize turn.pollPool host.recording turn.upload.pool.size 0 = polled
  rcases polled with ⟨later, landing⟩
  cases landing with
  | empty => rfl
  | pending => rfl
  | landed number result =>
      dsimp only [Prod.map, id]
      rw [land_bare]
      generalize later.land number result = landed
      rcases landed with ⟨after, _ | failure⟩ <;> rfl

theorem drain_bare (budget : Nat) :
    turn.bare.drain host budget =
      (turn.drain host.recording budget).map bare id := by
  induction budget generalizing turn with
  | zero => rfl
  | succ budget ih =>
      rw [drain, drain]
      rw [drainOnce_bare]
      generalize turn.drainOnce host.recording = drained
      rcases drained with ⟨later, _ | outcome⟩
      · exact ih later
      · rfl

theorem drainPool_bare :
    turn.bare.drainPool host =
      (turn.drainPool host.recording).map bare id := by
  rw [drainPool, drainPool]
  rw [pool_bare, Pool.size_bare, drain_bare]

/-! ## Ends and failures -/

theorem bare_clearPool : turn.clearPool.bare = turn.bare.clearPool := by
  rw [clearPool, clearPool]
  rw [pool_bare, Pool.flights_bare]
  simp [bare, withPool, Upload.bare, Pool.bare, Flight.bare,
    Upload.partRequest, Function.comp_def]

theorem resolve_bare (result : Except Failure Completion) :
    turn.bare.resolve result = (turn.resolve result).map bare id := by
  rw [resolve]
  rw [← bare_clearPool]
  rfl

theorem fail_bare (failure : Failure) :
    turn.bare.fail host failure =
      (turn.fail host.recording failure).map bare id := by
  rw [fail, fail]
  rw [session_bare]
  cases turn.upload.session.verdict with
  | paused => exact turn.resolve_bare _
  | failed => exact turn.resolve_bare _
  | running =>
      dsimp only
      generalize Session.failureEntries _ failure = entries
      have noted :
          turn.bare.note entries = (turn.note entries).bare :=
        rfl
      have idle :
          (turn.note entries).bare.upload.pool.idle.isEmpty =
            (turn.note entries).upload.pool.idle.isEmpty :=
        List.isEmpty_map
      rw [noted, idle]
      split
      · rw [← bare_clearPool]
        rfl
      · have woken :
            (turn.note entries).bare.wake = (turn.note entries).wake.bare :=
          rfl
        rw [woken, ← bare_clearPool]
        rfl

/-! ## Rounds -/

theorem awaitAbort_bare (marked : Marked Phase) :
    turn.bare.awaitAbort host marked.phase =
      (turn.awaitAbort host.recording marked).map bare id := by
  have heard := turn.bare_hear_poll host turn.upload.session
    (.abort turn.upload.session.target) marked
  have answer :
      (host.recording.poll turn.world turn.upload.session
          (.abort turn.upload.session.target) marked).outcome =
        (host.poll turn.bare.world turn.bare.upload.session
          (.abort turn.bare.upload.session.target)
          marked.phase).outcome.mark :=
    rfl
  rw [awaitAbort, awaitAbort]
  dsimp only
  rw [answer]
  change _ = turn.bare.hear (host.poll turn.bare.world
    turn.bare.upload.session (.abort turn.bare.upload.session.target)
      marked.phase) at heard
  rw [← heard]
  generalize turn.hear (host.recording.poll turn.world turn.upload.session
    (.abort turn.upload.session.target) marked) = later
  cases (host.poll turn.bare.world turn.bare.upload.session
      (.abort turn.bare.upload.session.target) marked.phase).outcome with
  | waiting phase => rfl
  | finished answer =>
      have ended (turn : Turn (Recorded World) Content (Marked Phase)) :=
        resolve_bare
          { turn with
            upload := { turn.upload with abort := none, failure := none } }
          (.error (turn.upload.failure.getD
            turn.upload.session.pausedFailure))
      cases answer with
      | ok done => exact ended later
      | error failure => exact ended (later.noteHere _)
  | panicked panic => exact Empty.elim panic

theorem dropClosing_bare (closing : Closing (Marked Phase)) :
    turn.bare.dropClosing closing.bare =
      (turn.dropClosing closing).map bare id :=
  resolve_bare
    { turn with
      upload := { turn.upload with closing := none }
      dropped :=
        (.complete turn.upload.session.target closing.receipts,
          closing.phase) :: turn.dropped }
    (.error turn.upload.session.pausedFailure)

theorem awaitClosing_bare (closing : Closing (Marked Phase)) :
    turn.bare.awaitClosing host closing.bare =
      (turn.awaitClosing host.recording closing).map bare id := by
  have heard := turn.bare_hear_poll host turn.upload.session
    (.complete turn.upload.session.target closing.receipts) closing.phase
  have answer :
      (host.recording.poll turn.world turn.upload.session
          (.complete turn.upload.session.target closing.receipts)
            closing.phase).outcome =
        (host.poll turn.bare.world turn.bare.upload.session
          (.complete turn.bare.upload.session.target
            closing.bare.receipts) closing.bare.phase).outcome.mark :=
    rfl
  rw [awaitClosing, awaitClosing]
  dsimp only
  rw [answer, dropClosing_bare]
  change _ = turn.bare.hear (host.poll turn.bare.world
    turn.bare.upload.session
      (.complete turn.bare.upload.session.target closing.bare.receipts)
        closing.bare.phase) at heard
  rw [← heard]
  generalize turn.hear (host.recording.poll turn.world turn.upload.session
    (.complete turn.upload.session.target closing.receipts)
      closing.phase) = later
  have cancelled : closing.bare.cancelled = closing.cancelled := rfl
  rw [cancelled]
  split
  · rfl
  cases (host.poll turn.bare.world turn.bare.upload.session
      (.complete turn.bare.upload.session.target closing.bare.receipts)
        closing.bare.phase).outcome with
  | waiting phase =>
      have any :
          later.bare.upload.closing.any (·.cancelled) =
            later.upload.closing.any (·.cancelled) := by
        change (later.upload.closing.map _).any _ = _
        cases later.upload.closing <;> rfl
      dsimp only [Response.mark]
      rw [any]
      split
      · exact later.dropClosing_bare
          { closing with phase := { phase, begun := true } }
      · rfl
  | finished answer =>
      let cleared :=
        { later with upload := { later.upload with closing := none } }
      cases answer with
      | error failure => exact cleared.fail_bare host failure
      | ok completion =>
          let session := { cleared.upload.session with completed := true }
          let noted := (cleared.withSession session).noteHere
            (.completed completion.location completion.tag)
          exact noted.resolve_bare (.ok completion)
  | panicked panic phase =>
      have same :
          later.bare.upload.closing.map ({ · with phase }) =
            (later.upload.closing.map
              ({ · with phase := { phase, begun := true } })).map
                Closing.bare := by
        change (later.upload.closing.map _).map _ = _
        cases later.upload.closing <;> rfl
      dsimp only [Response.mark]
      rw [same]
      rfl

theorem sendPart_bare (body : Bytes) :
    turn.bare.sendPart host body =
      (turn.sendPart host.recording body).bare := by
  rw [sendPart, sendPart]
  rw [session_bare]
  rcases turn.upload.session.takeNumber with ⟨session, number⟩
  dsimp only
  split
  · rfl
  · let begun := session.beginPart number
    let flight : Flight (Marked Phase) :=
      { number
        body
        phase :=
          host.recording.unsent (.part begun.target number body)
        cancelled := begun.verdict ≠ .running }
    have pushed := turn.upload.pool.bare_push flight
    exact congrArg
      (fun pool =>
        ((turn.bare.withSession begun).withPool pool).noteHere
          (.sent number body.length))
      pushed.symm

/-- A source is asked in the same way when nothing is written down. -/
theorem poll_content_bare (cutter : Cutter Content) :
    cutter.poll (content host) turn.bare =
      ((cutter.poll (content host.recording) turn).1.bare,
        (cutter.poll (content host.recording) turn).2) :=
  Cutter.poll_view bare
    (fun turn _ =>
      congrArg (·, _)
        (turn.bare_hear (Recorded.world_witness _ _ _ _ _) rfl).symm)
    turn cutter

theorem finishCut_bare (cutter : Cutter Content)
    (outcome : Cutter.Outcome) :
    finishCut host (turn.bare, cutter, outcome) =
      (finishCut host.recording (turn, cutter, outcome)).map bare id := by
  let cut := turn.withCutter cutter
  cases outcome with
  | pending => rfl
  | part body => exact congrArg (·, none) (cut.sendPart_bare host body)
  | failed failure => exact cut.fail_bare host failure
  | ended => rfl
  | broken panic => rfl

theorem cutPart_bare :
    turn.bare.cutPart host =
      (turn.cutPart host.recording).map bare id := by
  have polled := turn.poll_content_bare host turn.upload.cutter
  have cutter : turn.bare.upload.cutter = turn.upload.cutter := rfl
  rw [cutPart, cutPart]
  rw [cutter, polled]
  exact finishCut_bare _ host _ _

theorem beginClosing_bare :
    turn.bare.beginClosing host =
      (turn.beginClosing host.recording).map bare id := by
  rw [beginClosing, beginClosing]
  rw [session_bare]
  dsimp only
  split <;> rfl

theorem flushed_bare (drained : Drained) :
    flushed host (turn.bare, drained) =
      (flushed host.recording (turn, drained)).map bare id := by
  cases drained with
  | failed failure => exact turn.fail_bare host failure
  | pending => rfl
  | empty =>
      rw [flushed, flushed]
      rw [session_bare]
      split
      · exact turn.beginClosing_bare host
      · rfl

theorem awaitParts_bare :
    turn.bare.awaitParts host =
      (turn.awaitParts host.recording).map bare id := by
  rw [awaitParts, awaitParts]
  rw [drainPool_bare]
  exact flushed_bare _ host _

/-- What a round goes on to does not depend on what was written down. -/
theorem onward_bare :
    turn.bare.onward id (awaitParts host) (cutPart host) =
      (turn.onward id (awaitParts host.recording)
        (cutPart host.recording)).map bare id := by
  have room : turn.bare.upload.hasRoom = turn.upload.hasRoom :=
    turn.upload.hasRoom_bare
  rw [onward, onward]
  rw [room, session_bare]
  split
  · rfl
  · split
    · exact turn.awaitParts_bare host
    · exact turn.cutPart_bare host

theorem advance_bare :
    turn.bare.advance host =
      (turn.advance host.recording).map bare id := by
  rw [advance, advance]
  rw [drainPool_bare]
  generalize turn.drainPool host.recording = drained
  rcases drained with ⟨later, outcome⟩
  cases outcome with
  | failed failure => exact later.fail_bare host failure
  | pending => exact later.onward_bare host
  | empty => exact later.onward_bare host

/-- A round does not depend on what was written down. -/
theorem round_bare :
    turn.bare.round host = (turn.round host.recording).map bare id := by
  have abort :
      turn.bare.upload.abort = turn.upload.abort.map Marked.phase :=
    rfl
  have closing :
      turn.bare.upload.closing = turn.upload.closing.map Closing.bare :=
    rfl
  rw [round, round]
  rw [enter, enter]
  rw [abort, closing]
  cases turn.upload.abort with
  | some marked => exact turn.awaitAbort_bare host marked
  | none =>
      cases turn.upload.closing with
      | some closing => exact turn.awaitClosing_bare host closing
      | none =>
          dsimp only [Option.map]
          rw [session_bare]
          split
          · exact turn.resolve_bare _
          · exact turn.advance_bare host

theorem rounds_bare :
    turn.bare.rounds host = (turn.rounds host.recording).map bare id := by
  fun_induction rounds host.recording turn with
  | case1 turn later outcome went =>
      rw [rounds_eq, turn.round_bare host, went]
      rfl
  | case2 turn later went ih =>
      rw [rounds_eq, turn.round_bare host, went]
      exact ih

theorem activate_bare : turn.bare.activate = turn.activate.bare := by
  rw [activate, activate]
  rw [session_bare]
  dsimp only
  split <;> rfl

end Turn

/-- A poll does not depend on what was written down. -/
theorem Upload.poll_bare (host : Host World Content Phase)
    (recorded : Recorded World) (upload : Upload Content (Marked Phase)) :
    upload.bare.poll host recorded.world =
      (upload.poll host.recording recorded).map Turn.bare id := by
  let turn : Turn (Recorded World) Content (Marked Phase) :=
    { upload, world := recorded }
  have started : turn.bare.activate = turn.activate.bare :=
    turn.activate_bare
  have resolved : upload.bare.resolved = upload.resolved := rfl
  unfold poll Turn.begin
  dsimp only
  rw [resolved]
  split
  · rfl
  · exact (congrArg (Turn.rounds host) started).trans
      (turn.activate.rounds_bare host)

/-! ## Runs without what was written down -/

namespace Place

/-- A place at which nothing was written down. -/
def bare (place : Place (Recorded World) Content (Marked Phase)) :
    Place World Content Phase where
  world := place.world.world
  upload := place.upload.bare

variable (host : Host World Content Phase)
  (place : Place (Recorded World) Content (Marked Phase))

/-- A recorded poll comes to what the poll comes to. -/
theorem poll_bare :
    place.bare.poll host = (place.poll host.recording).map bare id :=
  congrArg (fun polled => (polled.1.place, polled.2))
    (Upload.poll_bare host place.world place.upload)

theorem bare_wake (number : PartNumber) :
    (place.wake number).bare = place.bare.wake number := by
  let turn : Turn (Recorded World) Content (Marked Phase) :=
    { upload := place.upload, world := place.world }
  calc
    (place.wake number).bare =
        (turn.signal (.wakePart number)).place.bare := by
      rw [Turn.place_signal]
      rfl
    _ = (turn.bare.signal (.wakePart number)).place :=
      congrArg Turn.place (turn.bare_signal (.wakePart number))
    _ = place.bare.wake number := Turn.place_signal turn.bare _

/-- A handle is answered as if nothing had been written down. -/
theorem pause_bare :
    place.bare.pause = place.pause.bare ∧
      place.bare.upload.pause.2.1 = place.upload.pause.2.1 := by
  have asked := place.upload.pause_bare
  constructor
  · exact congrArg (fun asked => place.bare.become asked.1) asked
  · exact congrArg (·.2.1) asked

/-- Writing down a move does not change it. -/
theorem bare_record (move : Move World Content) :
    (place.record host move).bare = place.bare.move host move := by
  cases move with
  | poll => exact congrArg Prod.fst (place.poll_bare host).symm
  | pause => exact place.pause_bare.1.symm
  | wake number => exact place.bare_wake number
  | change change => rfl
  | feed feed => rfl

/-- Writing down a run does not change it. -/
theorem bare_replay (moves : List (Move World Content)) :
    (place.replay host moves).bare = place.bare.play host moves := by
  induction moves generalizing place with
  | nil => rfl
  | cons move moves ih =>
      have moved := place.bare_record host move
      apply (ih (place.record host move)).trans
      rw [moved]
      rfl

end Place

end Multipart
