import Multipart.Proofs.Upload.Facts

/-!
# What is known of a session while it is watched

In the middle of a poll the session is seen at every moment, and pauses may
come between two of them.  A property of the session and of its history lasts
through the replies of the host if it lasts through quiet events and through
pauses; the last event of a reply may tell of a receipt, and is left to look
at.  The main statement, `Watches.step`, is for properties of what a session
counts: of all the steps of a poll only two have to be looked at then.
-/

namespace Multipart

variable {World Content Phase : Type}

/-- No checkpoint is handed out when a request is polled. -/
theorem Marked.checkpoint?_event (marked : Marked Phase)
    (request : Request) : (marked.event request).checkpoint? = none := by
  rw [event]
  split <;> rfl

/-- No part lands when a request is polled. -/
theorem Marked.lands_event (marked : Marked Phase) (request : Request) :
    (marked.event request).lands = false := by
  rw [event]
  split <;> rfl

/-- What makes a property of a session and its history last for a while. -/
structure Hears (Known : Session → History → Prop) : Prop where
  note : ∀ {session history event}, Known session history →
    event.checkpoint? = none → event.lands = false →
    Known session (history ++ [⟨session, event⟩])
  pause : ∀ {session : Session} {history}, Known session history →
    Known session.pause.1
      (history ++ [⟨session.pause.1, .paused session.pause.2⟩])

namespace Hears

variable {Known : Session → History → Prop}

/-- The pauses in the middle of a poll may be asked for. -/
theorem hear (hears : Hears Known) {session : Session}
    (recorded : Recorded World) (known : Known session recorded.history)
    (signals : List Signal) :
    Known (session.hear signals)
      (recorded.hear session signals).history := by
  induction signals generalizing session recorded with
  | nil => exact known
  | cons first signals ih =>
      cases first with
      | pause =>
          exact ih
            (recorded.note session.pause.1 (.paused session.pause.2))
            (hears.pause known)
      | wakePart number => exact ih recorded known
      | wakeDriver => exact ih recorded known
      | note entry => exact ih recorded known

/-- A reply may be heard up to its result. -/
theorem witness {Outcome : Type} (hears : Hears Known)
    {session : Session} {recorded : Recorded World}
    (known : Known session recorded.history) (event : Event)
    (reply : Reply World Outcome) (result : Option Event)
    (silent : event.checkpoint? = none) (unlanded : event.lands = false) :
    ∃ history, Known (session.hear reply.signals) history ∧
      (recorded.witness session event reply result).history =
        history ++
          result.toList.map (⟨session.hear reply.signals, ·⟩) := by
  have heard := hears.hear
    ({ recorded with world := reply.world }.note session event)
    (hears.note known silent unlanded) reply.signals
  refine ⟨_, heard, ?_⟩
  cases result with
  | none => exact (List.append_nil _).symm
  | some answer => rfl

variable {host : Host World Content Phase}
  {place later : Place (Recorded World) Content (Marked Phase)}

/-- A request may be polled up to its answer. -/
theorem hear_poll (hears : Hears Known) (host : Host World Content Phase)
    (known : Known place.upload.session place.world.history)
    (request : Request) (marked : Marked Phase) :
    let heard := place.hear
      (host.recording.poll place.world place.upload.session request marked)
    ∃ history, Known heard.upload.session history ∧
      heard.world.history =
        history ++
          (host.poll place.world.world place.upload.session request
            marked.phase).outcome.event?.toList.map
              (⟨heard.upload.session, ·⟩) := by
  intro heard
  rw [show heard.upload.session = _ from Upload.session_hear _ _]
  exact hears.witness known _ _ _ (marked.checkpoint?_event request)
    (marked.lands_event request)

/-- The source may be asked. -/
theorem polled (hears : Hears Known)
    (known : Known place.upload.session place.world.history)
    {cutter : Cutter Content} {outcome : Cutter.Outcome}
    (polled :
      place.upload.cutter.poll host.recording.source place =
        (later, cutter, outcome)) :
    Known later.upload.session later.world.history := by
  let keeps
      (before after : Place (Recorded World) Content (Marked Phase)) :=
    Known before.upload.session before.world.history →
      Known after.upload.session after.world.history
  have kept :
      keeps place
        (place.upload.cutter.poll host.recording.source place).1 := by
    refine Cutter.poll_world (R := keeps) (fun _ known => known)
      (fun first second known => second (first known)) ?_
      place place.upload.cutter
    intro place content known
    let reply :=
      host.pull place.world.world place.upload.session content
    obtain ⟨history, known, same⟩ :=
      hears.witness known .pulled reply reply.outcome.event? rfl rfl
    rw [show (host.recording.source.pull place content).1.upload.session =
        place.upload.session.hear reply.signals from
      Upload.session_hear _ _]
    rw [show (host.recording.source.pull place content).1.world.history =
        _ from same]
    cases given : reply.outcome.event? with
    | none => exact (List.append_nil history).symm ▸ known
    | some event =>
        rcases Pull.eq_of_mem_event (Option.mem_toList.mpr given) with
          rfl | ⟨buffer, rfl⟩
        · exact hears.note known rfl rfl
        · exact hears.note known rfl rfl
  rw [polled] at kept
  exact kept known

/-- A handle may be asked for a pause between two polls. -/
theorem paused (hears : Hears Known)
    (known : Known place.upload.session place.world.history) :
    let after := place.pause.note (.paused place.upload.pause.2.1)
    Known after.upload.session after.world.history := by
  intro after
  change Known place.upload.pause.1.session
    (place.world.history ++
      [⟨place.upload.pause.1.session, .paused place.upload.pause.2.1⟩])
  rw [place.upload.session_pause.1, place.upload.session_pause.2]
  exact hears.pause known

end Hears

/-! ## What a session counts -/

/-- What a session is for, what it counts and whether it has completed. -/
def Session.account (session : Session) :
    Target × Plan × Progress × Bool :=
  (session.target, session.plan, session.progress, session.completed)

theorem Session.progress_of_account {session later : Session}
    (same : later.account = session.account) :
    later.progress = session.progress :=
  congrArg (·.2.2.1) same

/-- What is handed out at a pause is the checkpoint of the session. -/
theorem Session.checkpoint_pause (session : Session)
    {checkpoint : Checkpoint}
    (handed : session.pause.2.checkpoint? = some checkpoint) :
    checkpoint = session.pause.1.checkpoint := by
  rcases session.pause_cases with ⟨same, _⟩ | ⟨same, _⟩ | ⟨same, _⟩ <;>
    rw [same] at handed ⊢
  · cases handed
  · exact (Option.some.inj handed).symm
  · exact (Option.some.inj handed).symm

/-- A pause leaves the account as it is. -/
theorem Session.account_pause (session : Session) :
    session.pause.1.account = session.account := by
  rcases session.pause_cases with ⟨same, _⟩ | ⟨same, _⟩ | ⟨same, _⟩ <;>
    rw [same]
  rfl

theorem Upload.Heard.account {upload later : Upload Content Phase}
    (heard : Heard upload later) :
    later.session.account = upload.session.account := by
  cases heard <;> rfl

theorem Upload.account_fail (host : Host World Content Phase)
    (upload : Upload Content Phase) (failure : Failure) :
    (upload.fail host failure).1.session.account =
      upload.session.account := by
  rw [Upload.fail]
  cases upload.session.verdict <;> rfl

theorem Upload.account_sendPart (host : Host World Content Phase)
    (upload : Upload Content Phase) (body : Bytes) :
    (upload.sendPart host body).session.account =
      upload.session.account := by
  rw [Upload.sendPart]
  dsimp only
  split <;> rfl

/--
What makes a property of a session and its history last, if of the session
only its account counts.
-/
structure Watches (Known : Session → History → Prop) : Prop
    extends Hears Known where
  congr : ∀ {session later : Session} {history}, Known session history →
    later.account = session.account → Known later history

namespace Watches

variable {Known : Session → History → Prop}
  {host : Host World Content Phase}
  {place later : Place (Recorded World) Content (Marked Phase)}

/-- A request may be polled whose answer lands no part. -/
theorem heard (watches : Watches Known)
    (known : Known place.upload.session place.world.history)
    {request : Request} {marked : Marked Phase}
    (unlanded : ∀ answer,
      (host.recording.poll place.world place.upload.session request
          marked).outcome = .finished answer →
        (Event.answered request answer).lands = false) :
    let heard := place.hear
      (host.recording.poll place.world place.upload.session request marked)
    Known heard.upload.session heard.world.history := by
  intro heard
  obtain ⟨history, known, same⟩ :=
    watches.hear_poll host known request marked
  rw [show heard.world.history = _ from same]
  cases answer :
      (host.poll place.world.world place.upload.session request
        marked.phase).outcome with
  | waiting phase => exact (List.append_nil history).symm ▸ known
  | panicked => exact (List.append_nil history).symm ▸ known
  | finished answered =>
      exact watches.note known rfl
        (unlanded answered (congrArg Response.mark answer))

/--
What is known of an account lasts through a step, if it lasts when a receipt
is recorded and when the upload completes.
-/
theorem step (watches : Watches Known)
    (known : Known place.upload.session place.world.history)
    (lands : ∀ {flight receipt session history},
      flight ∈ place.upload.pool.flights →
      (host.recording.askPart place flight).outcome =
        .finished (.ok receipt) →
      Known session history →
        Known (session.record receipt)
          (history ++ [⟨session,
            .answered
              (.part place.upload.session.target flight.number flight.body)
              (.ok receipt)⟩]))
    (completes : ∀ {closing session history},
      place.upload.closing = some closing →
      session.progress = place.upload.session.progress →
      Known session history →
        Known { session with completed := true } history)
    {outcome : Option Outcome}
    (step : Step host.recording place later outcome) :
    Known later.upload.session later.world.history := by
  have part {flight : Flight (Marked Phase)}
      (queued : List (Flight (Marked Phase)))
      (unlanded : ∀ answer,
        (host.recording.askPart place flight).outcome = .finished answer →
          (Event.answered (.part place.upload.session.target flight.number
            flight.body) answer).lands = false) :
      let after := place.heardPart host.recording flight queued
      Known after.upload.session after.world.history := by
    let polling := place.become
      (place.upload.withPool (place.upload.pool.polling flight queued))
    have known : Known polling.upload.session polling.world.history := known
    exact watches.heard known unlanded
  have closes {closing : Closing (Marked Phase)} :
      let after := place.hear (host.recording.askClosing place closing)
      Known after.upload.session after.world.history :=
    watches.heard known fun _ _ => rfl
  have aborts {phase : Marked Phase} :
      let after := place.hear (host.recording.askAbort place phase)
      Known after.upload.session after.world.history :=
    watches.heard known fun _ _ => rfl
  cases step with
  | withdrawn => exact watches.congr known rfl
  | @waiting _ queued _ _ _ _ answer =>
      exact part queued fun _ other => by cases answer.symm.trans other
  | @recalled _ queued _ _ _ _ answer =>
      exact watches.congr
        (part queued fun _ other => by cases answer.symm.trans other) rfl
  | @received flight queued receipt opened front wanted answer =>
      let polling := place.become
        (place.upload.withPool (place.upload.pool.polling flight queued))
      have known : Known polling.upload.session polling.world.history :=
        known
      obtain ⟨history, known, same⟩ :=
        watches.hear_poll host known
          (.part place.upload.session.target flight.number flight.body)
          flight.phase
      have finished := Response.eq_of_mark_eq_finished answer
      change (host.poll place.world.world place.upload.session
        (.part place.upload.session.target flight.number flight.body)
        flight.phase.phase).outcome = _ at finished
      change Known _
        (place.heardPart host.recording flight queued).world.history
      rw [show (place.heardPart host.recording flight
        queued).world.history = _ from same]
      rw [show (host.poll polling.world.world polling.upload.session
        (.part place.upload.session.target flight.number flight.body)
        flight.phase.phase).outcome = _ from finished]
      exact watches.congr
        (lands (Pool.mem_flights_of_front front) answer known) rfl
  | @refused flight queued failure _ _ _ _ answer left =>
      subst left
      refine watches.congr (part queued fun _ other => ?_)
        (Upload.account_fail host.recording _ _)
      cases answer.symm.trans other
      rfl
  | resting => exact known
  | starved may polled =>
      have cut := watches.polled known polled
      exact cut
  | cut may polled =>
      have cut := watches.polled known polled
      exact watches.congr cut (Upload.account_sendPart host.recording _ _)
  | spoiled may polled =>
      have cut := watches.polled known polled
      exact watches.congr cut (Upload.account_fail host.recording _ _)
  | exhausted may polled =>
      have cut := watches.polled known polled
      exact watches.congr cut rfl
  | snapped may polled =>
      have cut := watches.polled known polled
      exact cut
  | closes => exact watches.congr known rfl
  | stumbles => exact watches.congr known rfl
  | parks => exact known
  | unclosed => exact known
  | closing => exact closes
  | reopened => exact closes
  | rejected unaborted closed wanted answer left =>
      subst left
      exact watches.congr closes (Upload.account_fail host.recording _ _)
  | @completes closing _ _ closed =>
      have heard := place.heard (host.recording.askClosing place closing)
      exact completes closed
        (Session.progress_of_account heard.account) closes
  | collapsed => exact closes
  | aborting => exact aborts
  | aborted => exact aborts

end Watches

end Multipart
