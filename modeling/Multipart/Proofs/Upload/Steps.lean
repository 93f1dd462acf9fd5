import Multipart.Proofs.Upload.Step

/-!
# A poll takes steps

Here the rounds of a poll are taken apart into steps.  A turn is seen as the
place it is at, without its journal and without what it is known by after the
poll; then every function of the poll moves along a chain of steps, and the
outcome of a poll is that of its last step.
-/

namespace Multipart

variable {World Content Phase : Type}

/-- A chain of steps that are followed by others. -/
abbrev Steps (host : Host World Content Phase) :
    Place World Content Phase → Place World Content Phase → Prop :=
  Relation.ReflTransGen fun before after => Step host before after none

/-- A chain of steps whose last has the given outcome. -/
def Arrives (host : Host World Content Phase)
    (place later : Place World Content Phase)
    (outcome : Option Outcome) : Prop :=
  ∃ middle, Steps host place middle ∧ Step host middle later outcome

theorem Arrives.from {host : Host World Content Phase}
    {first second later : Place World Content Phase}
    {outcome : Option Outcome}
    (before : Steps host first second)
    (arrives : Arrives host second later outcome) :
    Arrives host first later outcome := by
  rcases arrives with ⟨middle, steps, last⟩
  exact ⟨middle, before.trans steps, last⟩

theorem Arrives.single {host : Host World Content Phase}
    {place later : Place World Content Phase} {outcome : Option Outcome}
    (step : Step host place later outcome) :
    Arrives host place later outcome :=
  ⟨place, .refl, step⟩

/-- Without an outcome the last step is one of the chain. -/
theorem Arrives.steps {host : Host World Content Phase}
    {place later : Place World Content Phase}
    (arrives : Arrives host place later none) :
    Steps host place later := by
  rcases arrives with ⟨middle, steps, last⟩
  exact steps.tail last

namespace Turn

/-- The place that a turn is at. -/
def place (turn : Turn World Content Phase) :
    Place World Content Phase where
  world := turn.world
  upload := turn.upload

/-! ## The places of changed turns -/

@[simp]
theorem upload_place (turn : Turn World Content Phase) :
    turn.place.upload = turn.upload :=
  rfl

theorem place_signal (turn : Turn World Content Phase) (signal : Signal) :
    (turn.signal signal).place =
      turn.place.become (turn.upload.signal signal) := by
  cases signal with
  | pause =>
      show turn.pauseHere.place = _
      unfold pauseHere
      simp only
      split <;> rfl
  | wakePart number =>
      show (if _ then _ else _ : Turn World Content Phase).place =
        turn.place.become (if _ then _ else _)
      split <;> rfl
  | wakeDriver => rfl
  | note entry => rfl

theorem place_receive (turn : Turn World Content Phase)
    (signals : List Signal) :
    (turn.receive signals).place =
      turn.place.become (turn.upload.hear signals) := by
  induction signals generalizing turn with
  | nil => rfl
  | cons first signals ih =>
      have step := place_signal turn first
      calc
        ((turn.signal first).receive signals).place =
            (turn.signal first).place.become
              ((turn.signal first).upload.hear signals) := ih _
        _ = turn.place.become
              ((turn.upload.signal first).hear signals) := by
          rw [show (turn.signal first).upload =
              turn.upload.signal first from congrArg Place.upload step,
            step]
          rfl

@[simp]
theorem place_hear {Outcome : Type} (turn : Turn World Content Phase)
    (reply : Reply World Outcome) :
    (turn.hear reply).place = turn.place.hear reply :=
  place_receive { turn with world := reply.world } reply.signals

theorem place_sendPart (host : Host World Content Phase)
    (turn : Turn World Content Phase) (body : Bytes) :
    (turn.sendPart host body).place =
      turn.place.become (turn.upload.sendPart host body) := by
  unfold sendPart Upload.sendPart Session.takeNumber
  dsimp only
  split <;> rfl

theorem place_fail (host : Host World Content Phase)
    (turn : Turn World Content Phase) (failure : Failure) :
    (turn.fail host failure).1.place =
        turn.place.become (turn.upload.fail host failure).1 ∧
      (turn.fail host failure).2 =
        (turn.upload.fail host failure).2 := by
  unfold fail Upload.fail
  cases turn.upload.session.verdict with
  | running =>
      dsimp only
      split <;> exact ⟨rfl, rfl⟩
  | paused => exact ⟨rfl, rfl⟩
  | failed => exact ⟨rfl, rfl⟩

theorem place_drop {turn : Turn World Content Phase}
    {flight : Flight Phase} {number : PartNumber}
    (same : flight.number = number) :
    (turn.drop flight).place =
      turn.place.become
        (turn.upload.withPool (turn.upload.pool.remove number)) := by
  subst same
  rfl

/-! ## Polling the pool -/

/-- What is made of a request that has landed is one step. -/
structure Lands (host : Host World Content Phase)
    (place : Place World Content Phase)
    (later : Turn World Content Phase) (number : PartNumber)
    (result : Option (Except Failure Receipt)) : Prop where
  goesOn : ∀ after, later.land number result = (after, none) →
    Step host place after.place none
  fails : ∀ after failure,
    later.land number result = (after, some failure) →
      Step host place (after.place.fail host failure)
        (after.upload.fail host failure).2

/-- Where the poll of one request, or of the pool, has led to. -/
def Landing.Reached (host : Host World Content Phase)
    (place : Place World Content Phase)
    (later : Turn World Content Phase) : Landing → Prop
  | .empty => Steps host place later.place
  | .pending => Steps host place later.place
  | .landed number result =>
    ∃ middle, Steps host place middle ∧
      later.Lands host middle number result

theorem Landing.Reached.from {host : Host World Content Phase}
    {first second : Place World Content Phase}
    {later : Turn World Content Phase} {landing : Landing}
    (before : Steps host first second)
    (reached : landing.Reached host second later) :
    landing.Reached host first later := by
  cases landing with
  | empty => exact before.trans reached
  | pending => exact before.trans reached
  | landed number result =>
      rcases reached with ⟨middle, steps, lands⟩
      exact ⟨middle, before.trans steps, lands⟩

theorem lands_none {host : Host World Content Phase}
    {place dropped : Place World Content Phase}
    {later : Turn World Content Phase} {number : PartNumber}
    (reached : later.place = dropped)
    (step :
      Step host place
        (dropped.become
          { dropped.upload with
            session := dropped.upload.session.endPart number }) none) :
    later.Lands host place number none where
  goesOn after landed := by
    obtain rfl := (Prod.mk.inj landed).1
    subst reached
    exact step
  fails after failure landed := by
    simp [land] at landed

theorem lands_ok {host : Host World Content Phase}
    {place : Place World Content Phase}
    {later : Turn World Content Phase} {number : PartNumber}
    {receipt : Receipt}
    (step :
      Step host place
        (later.place.become
          { later.upload with
            session :=
              (later.upload.session.record receipt).endPart number })
        none) :
    later.Lands host place number (some (.ok receipt)) where
  goesOn after landed := by
    obtain rfl := (Prod.mk.inj landed).1
    exact step
  fails after failure landed := by
    simp [land] at landed

theorem lands_error {host : Host World Content Phase}
    {place : Place World Content Phase}
    {later : Turn World Content Phase} {number : PartNumber}
    {failure : Failure} {settled : Upload Content Phase}
    (left :
      settled =
        { later.upload with
          session := later.upload.session.endPart number })
    (step :
      Step host place
        (later.place.become (settled.fail host failure).1)
        (settled.fail host failure).2) :
    later.Lands host place number (some (.error failure)) where
  goesOn after landed := by
    simp [land] at landed
  fails after failed landed := by
    rcases Prod.mk.inj landed with ⟨rfl, same⟩
    obtain rfl := Option.some.inj same
    subst left
    exact step

theorem number_of_find?
    {pool : Pool Phase} {number : PartNumber} {flight : Flight Phase}
    (found : pool.find? number = some flight) :
    flight.number = number := by
  simpa using List.find?_some found

/-- What polling a request comes to, with its reply singled out. -/
theorem pollFlight_eq (host : Host World Content Phase)
    (turn : Turn World Content Phase) (flight : Flight Phase)
    (queued : List (Flight Phase)) :
    turn.pollFlight host flight queued =
      let heard :=
        (turn.withPool (turn.upload.pool.polling flight queued)).hear
          (host.askPart turn.place flight)
      match (host.askPart turn.place flight).outcome with
      | .finished result =>
        (heard.withPool (heard.upload.pool.remove flight.number),
          .landed flight.number (some result))
      | .waiting phase =>
        let set :=
          heard.withPool (heard.upload.pool.setPhase flight.number phase)
        match set.upload.pool.find? flight.number with
        | some other =>
          if other.cancelled then
            (set.drop other, .landed other.number none)
          else
            (set, .pending)
        | none => (set, .pending)
      | .panicked panic _ => nomatch panic := by
  unfold pollFlight Host.askPart
  dsimp only [withPool, place]
  generalize host.poll _ _ _ _ = reply
  rcases reply with ⟨world, signals, outcome⟩
  cases outcome with
  | finished result => rfl
  | waiting phase => rfl
  | panicked panic => exact Empty.elim panic

/-- Polling the request at the front of the queue is one step. -/
theorem reached_pollFlight (host : Host World Content Phase)
    {turn : Turn World Content Phase} {flight : Flight Phase}
    {queued : List (Flight Phase)}
    (opened : turn.upload.IsOpen)
    (front : turn.upload.pool.queued = flight :: queued)
    (wanted : flight.cancelled = false) :
    (turn.pollFlight host flight queued).1.upload.IsOpen ∧
      (turn.pollFlight host flight queued).2.Reached host turn.place
        (turn.pollFlight host flight queued).1 := by
  have heard := place_hear
    (turn.withPool (turn.upload.pool.polling flight queued))
    (host.askPart turn.place flight)
  change _ = turn.place.heardPart host flight queued at heard
  have still :
      (turn.place.heardPart host flight queued).upload.IsOpen :=
    Upload.IsOpen.heard (Upload.heard_hear _ _)
      ⟨opened.unaborted, opened.unclosed⟩
  rw [pollFlight_eq]
  generalize (turn.withPool
    (turn.upload.pool.polling flight queued)).hear
      (host.askPart turn.place flight) = later at heard
  rw [← heard] at still
  dsimp only
  split
  · rename_i result answer
    refine ⟨⟨still.unaborted, still.unclosed⟩, turn.place, .refl, ?_⟩
    cases result with
    | ok receipt =>
        have step : Step host turn.place _ none :=
          .received opened front wanted answer
        rw [← heard] at step
        exact lands_ok step
    | error failure =>
        have step : Step host turn.place _ _ :=
          .refused opened front wanted answer rfl
        rw [← heard] at step
        exact lands_error rfl step
  · rename_i phase answer
    have goesOn : Step host turn.place _ none :=
      .waiting opened front wanted answer
    rw [← heard] at goesOn
    split
    · rename_i other found
      split
      · rename_i flagged
        have number := number_of_find? found
        have member :
            other ∈ (later.upload.pool.setPhase
              flight.number phase).flights :=
          List.mem_of_find?_eq_some found
        rw [Pool.flights_setPhase] at member
        rcases List.mem_map.mp member with ⟨earlier, mem, rfl⟩
        have step : Step host turn.place _ none :=
          .recalled opened front wanted answer
            ⟨earlier, heard ▸ mem, by simpa using number,
              by simpa using flagged⟩
        rw [← heard] at step
        rw [number]
        exact ⟨⟨still.unaborted, still.unclosed⟩, turn.place, .refl,
          lands_none (place_drop number) step⟩
      · exact ⟨⟨still.unaborted, still.unclosed⟩, .single goesOn⟩
    · exact ⟨⟨still.unaborted, still.unclosed⟩, .single goesOn⟩
  · rename_i panic _ _
    exact Empty.elim panic

/-- Polling the pool takes a step for every request it polls. -/
theorem reached_pollPool (host : Host World Content Phase)
    (remaining yields : Nat) {turn : Turn World Content Phase}
    (opened : turn.upload.IsOpen) :
    (turn.pollPool host remaining yields).1.upload.IsOpen ∧
      (turn.pollPool host remaining yields).2.Reached host turn.place
        (turn.pollPool host remaining yields).1 := by
  induction remaining generalizing yields turn with
  | zero =>
      rw [pollPool]
      split <;> exact ⟨opened, .refl⟩
  | succ remaining ih =>
      rw [pollPool]
      split
      · split <;> exact ⟨opened, .refl⟩
      · rename_i flight queued front
        split
        · rename_i cancelled
          exact ⟨⟨opened.unaborted, opened.unclosed⟩, turn.place, .refl,
            lands_none (place_drop rfl)
              (.withdrawn opened front cancelled)⟩
        · rename_i wanted
          have polled :=
            reached_pollFlight host opened front (by simpa using wanted)
          split
          · rename_i later answer
            rw [answer] at polled
            dsimp only
            generalize (if later.upload.pool.isQueued flight.number = true
              then yields + 1 else yields) = woken
            split
            · have rest := ih woken polled.1
              exact ⟨rest.1, rest.2.from polled.2⟩
            · exact polled
          · exact polled

/-! ## Resolving requests -/

/-- Where resolving the requests of a pool has led to. -/
def Drained.Reached (host : Host World Content Phase)
    (place : Place World Content Phase)
    (later : Turn World Content Phase) : Drained → Prop
  | .empty => Steps host place later.place
  | .pending => Steps host place later.place
  | .failed failure =>
    Arrives host place (later.place.fail host failure)
      (later.upload.fail host failure).2

theorem Drained.Reached.from {host : Host World Content Phase}
    {first second : Place World Content Phase}
    {later : Turn World Content Phase} {drained : Drained}
    (before : Steps host first second)
    (reached : drained.Reached host second later) :
    drained.Reached host first later := by
  cases drained with
  | empty => exact before.trans reached
  | pending => exact before.trans reached
  | failed failure => exact Arrives.from before reached

theorem isOpen_land {turn : Turn World Content Phase}
    (opened : turn.upload.IsOpen) (number : PartNumber)
    (result : Option (Except Failure Receipt)) :
    (turn.land number result).1.upload.IsOpen := by
  rcases result with _ | _ | _ <;>
    exact ⟨opened.unaborted, opened.unclosed⟩

/-- Where trying to resolve one request has led to. -/
def ReachedOnce (host : Host World Content Phase)
    (place : Place World Content Phase)
    (later : Turn World Content Phase) : Option Drained → Prop
  | some drained => drained.Reached host place later
  | none => Steps host place later.place

/-- Resolving one request takes a step for each that is polled for it. -/
theorem reached_drainOnce (host : Host World Content Phase)
    {turn : Turn World Content Phase} (opened : turn.upload.IsOpen) :
    (turn.drainOnce host).1.upload.IsOpen ∧
      ReachedOnce host turn.place (turn.drainOnce host).1
        (turn.drainOnce host).2 := by
  have polled := reached_pollPool host turn.upload.pool.size 0 opened
  rw [drainOnce]
  split
  · rename_i later answer
    rw [answer] at polled
    exact polled
  · rename_i later answer
    rw [answer] at polled
    exact polled
  · rename_i later number result answer
    rw [answer] at polled
    rcases polled with ⟨still, middle, steps, lands⟩
    have opened := isOpen_land still number result
    split
    · rename_i after failure landed
      rw [landed] at opened
      exact ⟨opened, middle, steps, lands.fails after failure landed⟩
    · rename_i after landed
      rw [landed] at opened
      exact ⟨opened, steps.tail (lands.goesOn after landed)⟩

/-- Resolving requests takes a step for each that is polled or dropped. -/
theorem reached_drain (host : Host World Content Phase) (budget : Nat)
    {turn : Turn World Content Phase} (opened : turn.upload.IsOpen) :
    (turn.drain host budget).1.upload.IsOpen ∧
      (turn.drain host budget).2.Reached host turn.place
        (turn.drain host budget).1 := by
  induction budget generalizing turn with
  | zero => exact ⟨opened, .refl⟩
  | succ budget ih =>
      have once := reached_drainOnce host opened
      rw [drain]
      split
      · rename_i later drained went
        rw [went] at once
        exact once
      · rename_i later went
        rw [went] at once
        have rest := ih once.1
        exact ⟨rest.1, rest.2.from once.2⟩

theorem arrives_fail {host : Host World Content Phase}
    {place : Place World Content Phase}
    {turn : Turn World Content Phase} {failure : Failure}
    (arrives :
      Arrives host place (turn.place.fail host failure)
        (turn.upload.fail host failure).2) :
    Arrives host place (turn.fail host failure).1.place
      (turn.fail host failure).2 := by
  rcases place_fail host turn failure with ⟨reached, outcome⟩
  rw [reached, outcome]
  exact arrives

/-! ## The rounds of a poll -/

/-- The source is asked in the same way at a place and in a turn. -/
theorem poll_source (host : Host World Content Phase)
    (turn : Turn World Content Phase) (cutter : Cutter Content) :
    cutter.poll host.source turn.place =
      ((cutter.poll (content host) turn).1.place,
        (cutter.poll (content host) turn).2) :=
  Cutter.poll_view place
    (fun turn content =>
      congrArg
        (fun place => (place,
          (host.pull turn.world turn.upload.session content).outcome))
        (place_hear turn _).symm)
    turn cutter

/-- Asking the source is one step. -/
theorem arrives_cutPart (host : Host World Content Phase)
    {turn : Turn World Content Phase} (may : turn.upload.MayCut) :
    Arrives host turn.place (turn.cutPart host).1.place
      (turn.cutPart host).2 := by
  have polled := poll_source host turn turn.upload.cutter
  rw [cutPart]
  generalize turn.upload.cutter.poll (content host) turn = asked at polled
  rcases asked with ⟨after, cutter, outcome⟩
  dsimp only at polled ⊢
  cases outcome with
  | pending => exact .single (.starved may polled)
  | part body =>
      have step : Step host turn.place _ none := .cut may polled
      rw [finishCut]
      dsimp only
      rw [place_sendPart]
      exact .single step
  | failed failure =>
      have step : Step host turn.place _ _ := .spoiled may polled
      exact arrives_fail (.single step)
  | ended =>
      have step : Step host turn.place _ none := .exhausted may polled
      exact .single step
  | broken panic => exact .single (.snapped may polled)

/-- Beginning to complete an upload is one step. -/
theorem arrives_beginClosing (host : Host World Content Phase)
    {turn : Turn World Content Phase} (opened : turn.upload.IsOpen)
    (may : turn.upload.session.mayComplete) :
    Arrives host turn.place (turn.beginClosing host).1.place
      (turn.beginClosing host).2 := by
  rw [beginClosing]
  dsimp only
  split
  · rename_i number missing
    exact .single (.stumbles opened may missing)
  · rename_i receipts assembled
    exact .single (.closes opened may assembled)

theorem arrives_awaitParts (host : Host World Content Phase)
    {turn : Turn World Content Phase} (opened : turn.upload.IsOpen)
    (done : turn.upload.session.sourceDone = true) :
    Arrives host turn.place (turn.awaitParts host).1.place
      (turn.awaitParts host).2 := by
  have drained := reached_drain host turn.upload.pool.size opened
  have still :=
    (calm_drain host turn.upload.pool.size turn).sourceDone.trans done
  rw [awaitParts, drainPool]
  generalize turn.drain host turn.upload.pool.size = result
    at drained still
  rcases result with ⟨later, outcome⟩
  cases outcome with
  | failed failure => exact arrives_fail drained.2
  | pending =>
      exact Arrives.from drained.2
        (.single (.resting drained.1 (.inr still)))
  | empty =>
      rw [flushed]
      split
      · rename_i may
        exact Arrives.from drained.2
          (arrives_beginClosing host drained.1 may)
      · exact Arrives.from drained.2
          (.single (.resting drained.1 (.inr still)))

/-- Whatever a round goes on to leads along a chain of steps. -/
theorem arrives_onward (host : Host World Content Phase)
    {turn : Turn World Content Phase} (opened : turn.upload.IsOpen) :
    let next := turn.onward id (awaitParts host) (cutPart host)
    Arrives host turn.place next.1.place next.2 := by
  rw [onward]
  split
  · rename_i full
    exact .single (.resting opened (.inl (by simpa using full)))
  · rename_i room
    split
    · rename_i done
      exact arrives_awaitParts host opened done
    · rename_i unfinished
      exact arrives_cutPart host
        { opened with
          room := by simpa using room
          unfinished := by simpa using unfinished }

theorem arrives_advance (host : Host World Content Phase)
    {turn : Turn World Content Phase} (opened : turn.upload.IsOpen) :
    Arrives host turn.place (turn.advance host).1.place
      (turn.advance host).2 := by
  have drained := reached_drain host turn.upload.pool.size opened
  rw [advance, drainPool]
  generalize turn.drain host turn.upload.pool.size = result at drained
  rcases result with ⟨later, outcome⟩
  cases outcome with
  | failed failure => exact arrives_fail drained.2
  | pending => exact Arrives.from drained.2 (arrives_onward host drained.1)
  | empty => exact Arrives.from drained.2 (arrives_onward host drained.1)

/-- Waiting for the abort is one step. -/
theorem arrives_awaitAbort (host : Host World Content Phase)
    {turn : Turn World Content Phase} {phase : Phase}
    (begun : turn.upload.abort = some phase) :
    Arrives host turn.place (turn.awaitAbort host phase).1.place
      (turn.awaitAbort host phase).2 := by
  have heard := place_hear turn (host.askAbort turn.place phase)
  rw [awaitAbort]
  dsimp only
  split
  · rename_i later answer
    have step : Step host turn.place _ (some .pending) :=
      .aborting begun answer
    rw [← heard] at step
    exact .single step
  · rename_i result answer
    have step : Step host turn.place _ _ := .aborted begun answer
    rw [← heard] at step
    cases result with
    | ok done => exact .single step
    | error failure => exact .single step
  · rename_i panic _ _
    exact Empty.elim panic

/-- Waiting for the request that completes the upload is one step. -/
theorem arrives_awaitClosing (host : Host World Content Phase)
    {turn : Turn World Content Phase} {closing : Closing Phase}
    (unaborted : turn.upload.abort = none)
    (closed : turn.upload.closing = some closing) :
    Arrives host turn.place (turn.awaitClosing host closing).1.place
      (turn.awaitClosing host closing).2 := by
  have heard := place_hear turn (host.askClosing turn.place closing)
  rw [awaitClosing]
  split
  · rename_i cancelled
    exact .single (.unclosed unaborted closed cancelled)
  · rename_i sent
    have wanted : closing.cancelled = false := by simpa using sent
    dsimp only
    split
    · rename_i phase answer
      split
      · rename_i cancelled
        have cancelled :
            (turn.hear (host.askClosing turn.place
              closing)).place.upload.closing.any (·.cancelled) = true :=
          cancelled
        rw [heard] at cancelled
        have step : Step host turn.place _ _ :=
          .reopened unaborted closed wanted answer cancelled
        rw [← heard] at step
        exact .single step
      · rename_i kept
        have kept :
            (turn.hear (host.askClosing turn.place
              closing)).place.upload.closing.any (·.cancelled) = false :=
          Bool.eq_false_iff.mpr kept
        rw [heard] at kept
        have step : Step host turn.place _ _ :=
          .closing unaborted closed wanted answer kept
        rw [← heard] at step
        exact .single step
    · rename_i result answer
      cases result with
      | error failure =>
          have step : Step host turn.place _ _ :=
            .rejected unaborted closed wanted answer rfl
          rw [← heard] at step
          exact arrives_fail (.single step)
      | ok completion =>
          have step : Step host turn.place _ _ :=
            .completes unaborted closed wanted answer
          rw [← heard] at step
          exact .single step
    · rename_i panic phase answer
      have step : Step host turn.place _ _ :=
        .collapsed unaborted closed wanted answer
      rw [← heard] at step
      exact .single step

/-- A round goes along a chain of steps. -/
theorem arrives_round (host : Host World Content Phase)
    (turn : Turn World Content Phase) :
    Arrives host turn.place (turn.round host).1.place
      (turn.round host).2 := by
  rw [round, enter]
  split
  · rename_i phase begun
    exact arrives_awaitAbort host begun
  · rename_i closing unaborted closed
    exact arrives_awaitClosing host unaborted closed
  · rename_i unaborted unclosed
    split
    · rename_i paused
      exact .single (.parks ⟨unaborted, unclosed⟩ paused)
    · exact arrives_advance host ⟨unaborted, unclosed⟩

theorem arrives_rounds (host : Host World Content Phase)
    (turn : Turn World Content Phase) :
    Arrives host turn.place (turn.rounds host).1.place
      (some (turn.rounds host).2) := by
  fun_induction rounds host turn with
  | case1 turn later outcome went =>
      have arrives := arrives_round host turn
      rw [went] at arrives
      exact arrives
  | case2 turn later went ih =>
      have arrives := arrives_round host turn
      rw [went] at arrives
      exact Arrives.from arrives.steps ih

end Turn

/-- The place of an upload once it counts as started. -/
def Place.activate (place : Place World Content Phase) :
    Place World Content Phase :=
  place.become
    { place.upload with
      session := { place.upload.session with started := true } }

theorem Turn.place_activate (turn : Turn World Content Phase) :
    turn.activate.place = turn.place.activate := by
  rw [activate]
  dsimp only
  split
  · rename_i started
    have same :
        { turn.upload.session with started := true } =
          turn.upload.session := by
      rw [← started]
    rw [Place.activate]
    rw [upload_place, same]
    rfl
  · rfl

/-- A poll of an upload that has not resolved takes steps. -/
theorem steps_poll (host : Host World Content Phase) (world : World)
    {upload : Upload Content Phase} (unresolved : upload.resolved = false) :
    Arrives host (Place.activate { world, upload })
      (upload.poll host world).1.place
      (some (upload.poll host world).2) := by
  have arrives :=
    Turn.arrives_rounds host (Turn.activate { upload, world })
  rw [Turn.place_activate] at arrives
  rw [upload.poll_of_unresolved host world unresolved]
  exact arrives

end Multipart
