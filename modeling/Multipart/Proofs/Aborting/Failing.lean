import Multipart.Proofs.Aborting.Reports

/-!
# How an upload comes to be aborted

An upload that goes on is told of a failure by a step, or it is not; and when
it is told of one while it runs, then all that it can do next is to send its
abort.  The main statement, `Going.step`, says this for every step of a poll,
and `Going.rests` says what an upload waits for that has drawn too much.
-/

namespace Multipart

variable {World Content Phase : Type} {target : Target} {plan : Plan}
  {existing : PartTable Receipt} {host : Host World Content Phase}
  {capacity : Option Nat} {failure : Failure}
  {place later : Place (Recorded World) Content (Marked Phase)}

/-! ## On the way to the abort -/

/-- What is known of an upload whose abort is about to be sent. -/
structure Due (capacity : Option Nat) (failure : Failure)
    (place : Place (Recorded World) Content (Marked Phase)) : Prop where
  unsent : ∃ marked, place.upload.abort = some marked ∧
    marked.begun = false
  kept : place.upload.failure = some failure
  judged : place.upload.session.verdict = .failed
  always : place.world.history.Always (Easy capacity)
  unhanded : ¬ place.world.history.Handed
  cause :
    place.world.history.cause? place.upload.session = some failure

namespace Struck

/-- Of the session only what a cause depends on and the verdict count. -/
theorem become (struck : Struck capacity failure place)
    {upload : Upload Content (Marked Phase)}
    (abort : upload.abort = place.upload.abort)
    (verdict : upload.session.verdict = place.upload.session.verdict)
    (next : upload.session.nextPart = place.upload.session.nextPart)
    (plan : upload.session.plan = place.upload.session.plan) :
    Struck capacity failure (place.become upload) :=
  { struck.toUnaborted.become abort verdict with
    cause := fun unhanded => by
      have cause := struck.cause unhanded
      rw [History.cause?, Session.overfull?] at cause ⊢
      change _ = some failure at cause
      rw [show (place.become upload).upload = upload from rfl, next, plan]
      exact cause }

/-- A running upload that is struck is due to be aborted. -/
theorem fail (struck : Struck capacity failure place)
    (host : Host World Content Phase) :
    Going capacity (place.fail host.recording failure) ∨
      (place.upload.fail host.recording failure).2 = none ∧
        Due capacity failure (place.fail host.recording failure) := by
  rw [Place.fail, Upload.fail]
  cases verdict : place.upload.session.verdict with
  | running =>
      have unhanded : ¬ place.world.history.Handed := fun handed => by
        cases verdict.symm.trans (struck.parks.mp handed)
      exact .inr ⟨rfl,
        { unsent := ⟨_, rfl, rfl⟩
          kept := rfl
          judged := rfl
          always := struck.always
          unhanded
          cause := struck.cause unhanded }⟩
  | paused =>
      exact .inl
        { struck.toUnaborted.become rfl rfl with
          calm := fun unhanded =>
            absurd (struck.parks.mpr verdict) unhanded }
  | failed => exact absurd verdict struck.judged

end Struck

namespace Going

/-- A part request that goes on waiting tells of nothing. -/
theorem part_waited (going : Going capacity place)
    {flight : Flight (Marked Phase)} {phase : Marked Phase}
    (queued : List (Flight (Marked Phase)))
    (answer :
      (host.recording.askPart place flight).outcome = .waiting phase) :
    Going capacity (place.heardPart host.recording flight queued) := by
  let polling := place.become
    (place.upload.withPool (place.upload.pool.polling flight queued))
  have started : Going capacity polling := going.become rfl rfl
  exact started.waited rfl answer nofun

/-- The answer to a part request tells of a failure if it is one. -/
theorem part_finished (going : Going capacity place)
    {flight : Flight (Marked Phase)} {answer : Except Failure Receipt}
    (queued : List (Flight (Marked Phase)))
    (answered :
      (host.recording.askPart place flight).outcome = .finished answer) :
    let heard := place.heardPart host.recording flight queued
    Unaborted capacity heard ∧
      (¬ heard.world.history.Handed →
        heard.world.history.report? =
          match answer with
          | .ok _ => none
          | .error failure => some failure) := by
  let polling := place.become
    (place.upload.withPool (place.upload.pool.polling flight queued))
  have started : Going capacity polling := going.become rfl rfl
  have heard := started.hear_poll host
    (.part place.upload.session.target flight.number flight.body)
    flight.phase rfl
  dsimp only at heard
  rw [show (host.recording.poll polling.world polling.upload.session
    (.part place.upload.session.target flight.number flight.body)
    flight.phase).outcome = .finished answer from answered] at heard
  refine ⟨heard.1, fun unhanded => (heard.2 unhanded).trans ?_⟩
  cases answer <;> rfl

/-- The request that completes an upload tells of nothing without it. -/
theorem closing_waited (going : Going capacity place)
    {closing : Closing (Marked Phase)}
    {response : Response (Marked Phase)
      (.complete place.upload.session.target closing.receipts)}
    (answer :
      (host.recording.askClosing place closing).outcome = response)
    (unfinished : ∀ result, response ≠ .finished result) :
    Going capacity
      (place.hear (host.recording.askClosing place closing)) :=
  going.waited rfl answer unfinished

/-- The answer to the request that completes an upload tells likewise. -/
theorem closing_finished (going : Going capacity place)
    {closing : Closing (Marked Phase)} {answer : Except Failure Completion}
    (answered :
      (host.recording.askClosing place closing).outcome =
        .finished answer) :
    let heard := place.hear (host.recording.askClosing place closing)
    Unaborted capacity heard ∧
      (¬ heard.world.history.Handed →
        heard.world.history.report? =
          match answer with
          | .ok _ => none
          | .error failure => some failure) := by
  have heard := going.hear_poll host
    (.complete place.upload.session.target closing.receipts)
    closing.phase rfl
  dsimp only at heard
  rw [show (host.recording.poll place.world place.upload.session
    (.complete place.upload.session.target closing.receipts)
    closing.phase).outcome = .finished answer from answered] at heard
  refine ⟨heard.1, fun unhanded => (heard.2 unhanded).trans ?_⟩
  cases answer <;> rfl

/-- A step of an upload lets it go on, or is due to an abort. -/
theorem step (going : Going capacity place)
    (regular : Regular target plan existing place)
    (unresolved : place.upload.resolved = false) {outcome : Option Outcome}
    (step : Step host.recording place later outcome) :
    Going capacity later ∨
      outcome = none ∧ ∃ failure, Due capacity failure later := by
  have fails {failure : Failure}
      {middle : Place (Recorded World) Content (Marked Phase)}
      {upload : Upload Content (Marked Phase)}
      (struck : Struck capacity failure (middle.become upload)) :
      Going capacity
          (middle.become (upload.fail host.recording failure).1) ∨
        (upload.fail host.recording failure).2 = none ∧
          ∃ failure', Due capacity failure'
            (middle.become (upload.fail host.recording failure).1) :=
    (struck.fail host).imp id fun ⟨goesOn, due⟩ => ⟨goesOn, failure, due⟩
  cases step with
  | withdrawn | closes | stumbles | parks | unclosed =>
      exact .inl (going.become rfl rfl)
  | @waiting flight queued _ _ _ _ answer
  | @recalled flight queued _ _ _ _ answer =>
      have heard := going.part_waited queued answer
      exact .inl (heard.become rfl rfl)
  | @received flight queued _ _ _ _ answer =>
      have heard := going.part_finished queued answer
      have still : Going capacity
          (place.heardPart host.recording flight queued) :=
        { heard.1 with calm := heard.2 }
      exact .inl (still.become rfl rfl)
  | @refused flight queued failure _ _ _ _ answer left =>
      subst left
      have heard := going.part_finished queued answer
      have struck := heard.1.struck heard.2
      apply fails
      exact struck.become rfl rfl rfl rfl
  | resting => exact .inl going
  | starved may polled | snapped may polled =>
      have cut : Fitting capacity _ :=
        going.polled regular unresolved may polled
      exact .inl (cut.toGoing.become rfl rfl)
  | cut may polled =>
      have cut := going.polled regular unresolved may polled
      left
      apply Going.become cut
      · rw [Upload.sendPart]
        dsimp only
        split <;> rfl
      · rw [Upload.sendPart]
        dsimp only
        split <;> rfl
  | spoiled may polled =>
      have struck := going.polled regular unresolved may polled
      apply fails
      exact Struck.become struck rfl rfl rfl rfl
  | exhausted may polled =>
      have cut := going.polled regular unresolved may polled
      exact .inl (Going.become cut rfl rfl)
  | closing _ _ _ answer | reopened _ _ _ answer =>
      have heard := going.closing_waited answer (by simp)
      exact .inl (heard.become rfl rfl)
  | rejected unaborted closed wanted answer left =>
      subst left
      have heard := going.closing_finished answer
      have struck := heard.1.struck heard.2
      apply fails
      exact struck.become rfl rfl rfl rfl
  | @completes closing _ _ _ _ answer =>
      have heard := going.closing_finished answer
      have still : Going capacity
          (place.hear (host.recording.askClosing place closing)) :=
        { heard.1 with calm := heard.2 }
      exact .inl (still.become rfl rfl)
  | collapsed _ _ _ answer =>
      have heard := going.closing_waited answer (by simp)
      exact .inl (heard.become rfl rfl)
  | aborting begun | aborted begun =>
      cases going.waits.symm.trans begun

end Going

/-! ## What an upload waits for -/

namespace Regular

/-- An upload whose source is done has not drawn too much. -/
theorem overfull?_of_done (regular : Regular target plan existing place)
    (done : place.upload.session.sourceDone = true) :
    place.upload.session.overfull? place.world.history.given = none := by
  have total := (regular.measured.ended done).2
  rw [Recorded.facts, History.length_drawn_facts] at total
  rw [Session.overfull?, regular.sound.planned, total]
  exact if_neg fun beyond => Nat.lt_irrefl _ beyond.2

end Regular

/--
When a poll returns and the upload still runs, then its source is done, or it
has not resolved; and it waits for room if it has drawn too much.
-/
theorem Going.rests (going : Going capacity place)
    (regular : Regular target plan existing place)
    (unresolved : place.upload.resolved = false) {outcome : Outcome}
    (step : Step host.recording place later (some outcome))
    (running : later.upload.session.verdict = .running) :
    later.upload.session.sourceDone = true ∨
      later.upload.resolved = false ∧
        ((outcome = .pending ∧
            ∃ limit, place.upload.capacity = some limit ∧
              limit ≤ later.upload.session.inFlight) ∨
          later.upload.session.overfull? later.world.history.given =
            none) := by
  generalize last : some outcome = final at step
  have closes {closing : Closing (Marked Phase)}
      (closed : place.upload.closing = some closing) :
      place.upload.session.sourceDone = true :=
    regular.measured.closing (by rw [closed]; rfl)
  cases step with
  | refused => exact absurd running (Upload.judged_fail _ last)
  | spoiled => exact absurd running (Upload.judged_fail _ last)
  | rejected => exact absurd running (Upload.judged_fail _ last)
  | resting opened idle =>
      obtain rfl := Option.some.inj last
      rcases idle with full | done
      · refine .inr ⟨unresolved, .inl ⟨rfl, ?_⟩⟩
        rw [regular.sound.counted unresolved going.judged]
        rw [Upload.hasRoom] at full
        cases limit : place.upload.capacity with
        | none =>
            rw [limit] at full
            cases full
        | some bound =>
            rw [limit] at full
            exact ⟨bound, rfl,
              Nat.le_of_not_lt (of_decide_eq_false full)⟩
      · exact .inl done
  | starved may polled | snapped may polled =>
      have heard := (Cutter.polled host.recording polled).heard
      have cut : Fitting capacity _ :=
        going.polled regular unresolved may polled
      exact .inr ⟨heard.resolved.trans unresolved, .inr cut.fits⟩
  | stumbles opened may missing =>
      simp only [Session.mayComplete, Bool.and_eq_true] at may
      exact .inl may.1.1.1
  | parks opened paused => cases running.symm.trans paused
  | unclosed unaborted closed => exact .inl (closes closed)
  | @closing closing _ unaborted closed
  | @reopened closing _ unaborted closed
  | @completes closing _ unaborted closed
  | @collapsed closing _ _ unaborted closed =>
      have heard := place.heard (host.recording.askClosing place closing)
      exact .inl (heard.sourceDone.trans (closes closed))
  | aborting begun => cases going.waits.symm.trans begun
  | aborted begun => cases going.waits.symm.trans begun
  | withdrawn | waiting | recalled | received | cut | exhausted | closes =>
      cases last

end Multipart
