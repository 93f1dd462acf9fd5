import Multipart.Proofs.Upload.Recording
import Multipart.Proofs.Upload.Sound

/-!
# What a checkpoint is worth

A checkpoint that a pause hands out is meant to be final: the upload is
paused from then on and ends as paused.  There is one way in which it is not.
A pause may be asked for while the request that completes the upload is being
polled, and that very poll may find the request done; then the upload has its
object, and the checkpoint is for an upload that no longer exists.  The main
statement, `staysPaused_iff`, says that a checkpoint is final unless just
that happens.
-/

namespace Multipart

variable {World Content Phase : Type}

namespace Event

/-- Holds when a pause is asked for. -/
def isPause : Event → Bool
  | .paused _ => true
  | _ => false

/-- Holds when the request that completes an upload is polled. -/
def finishes : Event → Bool
  | .sent (.complete _ _) => true
  | .asked (.complete _ _) => true
  | _ => false

/-- Holds when the request that completes an upload succeeds. -/
def wins : Event → Bool
  | .answered (.complete _ _) (.ok _) => true
  | _ => false

end Event

/-- What a poll of a paused upload may come to. -/
def Outcome.Parks (id : UploadId) : Outcome → Prop
  | .pending => True
  | .resolved (.ok _) => False
  | .resolved (.error failure) => failure = .paused id
  | .faulted (.noReceipt _ _) => False
  | .faulted _ => True

/-- What may happen at an event while an upload is paused. -/
def Event.StaysPaused (id : UploadId) : Event → Prop
  | .returned outcome => outcome.Parks id
  | .paused answer =>
    ∃ checkpoint, answer.checkpoint? = some checkpoint ∧ checkpoint.id = id
  | _ => True

/-- Holds of an event that neither hands out a checkpoint nor decides. -/
structure Event.Plain (event : Event) : Prop where
  silent : event.checkpoint? = none
  losing : ¬ event.wins
  stays : ∀ id, event.StaysPaused id

namespace Moment

/--
Holds when the upload is seen as paused, a pause asked for hands out a
checkpoint of it, and a poll that resolves it says that it was paused.
-/
def StaysPaused (id : UploadId) (moment : Moment) : Prop :=
  moment.session.state = .paused ∧ moment.event.StaysPaused id

end Moment

/-! ## What a history allows -/

namespace History

/-- Holds when a checkpoint was handed out. -/
def Handed (history : History) : Prop :=
  ∃ moment ∈ history, moment.event.checkpoint? ≠ none

/-- Holds when the request that completes the upload has succeeded. -/
def Won (history : History) : Prop :=
  ∃ moment ∈ history, moment.event.wins

/-- Holds when the last moment, if there is one, is not a success. -/
def Settled (history : History) : Prop :=
  ∀ last, history.getLast? = some last → ¬ last.event.wins

theorem handed_concat {history : History} {last : Moment} :
    Handed (history ++ [last]) ↔
      history.Handed ∨ last.event.checkpoint? ≠ none := by
  simp [Handed, or_and_right, exists_or]

theorem won_concat {history : History} {last : Moment} :
    Won (history ++ [last]) ↔ history.Won ∨ last.event.wins := by
  simp [Won, or_and_right, exists_or]

theorem settled_concat {history : History} {last : Moment}
    (losing : ¬ last.event.wins) : Settled (history ++ [last]) := by
  intro other final
  rw [List.getLast?_concat] at final
  obtain rfl := Option.some.inj final
  exact losing

end History

/-- How the next moment depends on those before it. -/
structure Allowed (id : UploadId) (before : History) (next : Moment) :
    Prop where
  /-- A checkpoint is handed out for the upload, which is paused then. -/
  hands : ∀ checkpoint, next.event.checkpoint? = some checkpoint →
    next.session.state = .paused ∧ checkpoint.id = id ∧ ¬ before.Won
  /-- After a checkpoint and before a success the upload stays paused. -/
  stays : before.Handed → ¬ before.Won → ¬ next.event.wins →
    next.StaysPaused id
  /-- A success has no checkpoints before it but those of its own poll. -/
  wins : next.event.wins →
    ∃ front asked pauses, before = front ++ asked :: pauses ∧
      ¬ History.Handed front ∧ asked.event.finishes ∧
      ∀ pause ∈ pauses, pause.event.isPause
  /-- After a success the poll returns. -/
  returns : ∀ last, before.getLast? = some last → last.event.wins →
    ∃ completion, next.event = .returned (.resolved (.ok completion))

/-- What is known of a history when the session is as it is. -/
structure Told (id : UploadId) (session : Session) (history : History) :
    Prop where
  same : session.target.id = id
  allowed : history.Always (Allowed id)
  paused : history.Handed → ¬ history.Won →
    session.verdict = .paused
  won : history.Won ↔ session.completed = true
  settled : history.Settled

namespace Told

variable {id : UploadId} {session : Session} {history : History}

/-- An upload whose checkpoint is still good is seen as paused. -/
theorem state_eq (told : Told id session history)
    (handed : history.Handed) (open' : ¬ history.Won) :
    session.state = .paused := by
  have paused := told.paused handed open'
  rw [told.won] at open'
  simp [Session.state, paused, open']

/-- Only the id, the verdict and the completion of a session count. -/
theorem congr (told : Told id session history) {later : Session}
    (target : later.target = session.target)
    (verdict : later.verdict = session.verdict)
    (completed : later.completed = session.completed) :
    Told id later history where
  same := by rw [target, told.same]
  allowed := told.allowed
  paused handed going := verdict.trans (told.paused handed going)
  won := by rw [completed, told.won]
  settled := told.settled

/-- An event may happen that neither hands out a checkpoint nor wins. -/
theorem note (told : Told id session history) {event : Event}
    (silent : event.checkpoint? = none) (losing : ¬ event.wins)
    (stays : session.state = .paused → event.StaysPaused id) :
    Told id session (history ++ [⟨session, event⟩]) where
  same := told.same
  allowed :=
    History.always_concat told.allowed
      { hands := fun checkpoint handed => by
          rw [silent] at handed
          cases handed
        stays := fun handed going _ =>
          have paused := told.state_eq handed going
          ⟨paused, stays paused⟩
        wins := fun wins => absurd wins losing
        returns := fun last final wins =>
          absurd wins (told.settled last final) }
  paused handed going := by
    rw [History.handed_concat] at handed
    rw [History.won_concat, not_or] at going
    exact told.paused (handed.resolve_right (by simp [silent])) going.1
  won := by
    rw [History.won_concat, ← told.won]
    exact or_iff_left losing
  settled := History.settled_concat losing

/-- A checkpoint may be handed out when the upload is paused with it. -/
theorem hand (told : Told id session history) {later : Session}
    {answer : Session.PauseAnswer} {checkpoint : Checkpoint}
    (target : later.target = session.target)
    (completed : later.completed = session.completed)
    (paused : later.state = .paused)
    (verdict : later.verdict = .paused)
    (handed : answer.checkpoint? = some checkpoint)
    (same : checkpoint.id = id) :
    Told id later (history ++ [⟨later, .paused answer⟩]) where
  same := by rw [target, told.same]
  allowed :=
    History.always_concat told.allowed
      { hands := fun other again => by
          obtain rfl := Option.some.inj (handed.symm.trans again)
          exact ⟨paused, same, fun won => by
            rw [told.won, ← completed] at won
            simp [Session.state, won] at paused⟩
        stays := fun _ _ _ => ⟨paused, checkpoint, handed, same⟩
        wins := nofun
        returns := fun last final wins =>
          absurd wins (told.settled last final) }
  paused _ _ := verdict
  won := by
    rw [History.won_concat, completed, ← told.won]
    exact or_iff_left Bool.false_ne_true
  settled := History.settled_concat Bool.false_ne_true

/-- A pause may be asked for. -/
theorem pause (told : Told id session history) :
    Told id session.pause.1
      (history ++ [⟨session.pause.1, .paused session.pause.2⟩]) := by
  rcases session.pause_cases with
    ⟨answer, decided⟩ | ⟨answer, going, paused⟩ | ⟨answer, going, running⟩
  · rw [answer]
    refine told.note rfl Bool.false_ne_true fun paused => ?_
    rcases decided with completed | failed
    · simp [Session.state, completed] at paused
    · rw [Session.state] at paused
      grind
  · rw [answer]
    exact told.hand rfl rfl (by simp [Session.state, going, paused])
      paused rfl told.same
  · rw [answer]
    exact told.hand rfl rfl (by simp [Session.state, going]) rfl rfl
      told.same

/-- The pauses in the middle of a poll may be asked for. -/
theorem hear (recorded : Recorded World)
    (told : Told id session recorded.history) (signals : List Signal) :
    Told id (session.hear signals)
      (recorded.hear session signals).history := by
  induction signals generalizing session recorded with
  | nil => exact told
  | cons first signals ih =>
      cases first with
      | pause =>
          exact ih
            (recorded.note session.pause.1 (.paused session.pause.2))
            told.pause
      | wakePart number => exact ih recorded told
      | wakeDriver => exact ih recorded told
      | note entry => exact ih recorded told

/-- A reply may be heard that does not complete the upload. -/
theorem witness {Outcome : Type} {recorded : Recorded World}
    (told : Told id session recorded.history) {event : Event}
    {reply : Reply World Outcome} {result : Option Event}
    (asked : event.Plain)
    (answered : ∀ answer, result = some answer → answer.Plain) :
    Told id (session.hear reply.signals)
      (recorded.witness session event reply result).history := by
  have begun := told.note asked.silent asked.losing fun _ => asked.stays id
  have heard := Told.hear
    ({ recorded with world := reply.world }.note session event)
    begun reply.signals
  cases result with
  | none => exact heard
  | some answer =>
      have plain := answered answer rfl
      exact heard.note plain.silent plain.losing fun _ => plain.stays id

/-- The upload may complete, and its poll returns. -/
theorem win (told : Told id session history)
    {front pauses : History} {asked : Moment} {event : Event}
    {completion : Completion} (split : history = front ++ asked :: pauses)
    (unhanded : ¬ front.Handed) (finishes : asked.event.finishes)
    (each : ∀ pause ∈ pauses, pause.event.isPause)
    (wins : event.wins) (silent : event.checkpoint? = none)
    {later : Session} (same : later.target = session.target)
    (completed : later.completed = true) :
    Told id later
      (history ++ [⟨session, event⟩] ++
        [⟨later, .returned (.resolved (.ok completion))⟩]) := by
  have won : History.Won (history ++ [⟨session, event⟩]) :=
    History.won_concat.mpr (.inr wins)
  have again :
      History.Won (history ++ [⟨session, event⟩] ++
        [⟨later, .returned (.resolved (.ok completion))⟩]) :=
    History.won_concat.mpr (.inl won)
  exact
    { same := by rw [same, told.same]
      allowed := by
        refine History.always_concat
          (History.always_concat told.allowed ?_) ?_
        · exact
            { hands := fun checkpoint handed => by
                rw [silent] at handed
                cases handed
              stays := fun _ _ losing => absurd wins losing
              wins := fun _ =>
                ⟨front, asked, pauses, split, unhanded, finishes, each⟩
              returns := fun last final wins =>
                absurd wins (told.settled last final) }
        · exact
            { hands := nofun
              stays := fun _ going => absurd won going
              wins := nofun
              returns := fun _ _ _ => ⟨completion, rfl⟩ }
      paused := fun _ going => absurd again going
      won := iff_of_true again completed
      settled := History.settled_concat Bool.false_ne_true }

/-- A failing upload was not paused, or resolves as paused. -/
theorem fail {Content Phase : Type} (host : Host World Content Phase)
    {upload : Upload Content Phase} {failure : Failure}
    (told : Told id upload.session history) :
    Told id (upload.fail host failure).1.session history := by
  rw [Upload.fail]
  cases verdict : upload.session.verdict with
  | paused => exact told
  | failed => exact told
  | running =>
      exact
        { told with
          paused := fun handed going => by
            have paused := told.paused handed going
            rw [verdict] at paused
            cases paused }

end Told

/-! ## Every step is allowed -/

namespace Event

theorem plain_sent (request : Request) : (sent request).Plain :=
  ⟨rfl, Bool.false_ne_true, fun _ => trivial⟩

theorem plain_asked (request : Request) : (asked request).Plain :=
  ⟨rfl, Bool.false_ne_true, fun _ => trivial⟩

theorem plain_event (marked : Marked Phase) (request : Request) :
    (marked.event request).Plain := by
  rw [Marked.event]
  split
  · exact plain_asked request
  · exact plain_sent request

theorem plain_pull {size : Content → Nat} {content : Content}
    (pull : Pull size content) {event : Event}
    (seen : pull.event? = some event) : event.Plain := by
  rcases Pull.eq_of_mem_event (Option.mem_toList.mpr seen) with
    rfl | ⟨buffer, rfl⟩ <;>
    exact ⟨rfl, Bool.false_ne_true, fun _ => trivial⟩

end Event

section Steps

variable {id : UploadId} {host : Host World Content Phase}
  {place : Place (Recorded World) Content (Marked Phase)}

/-- A request may be polled, if that does not complete the upload. -/
theorem Told.hear_poll
    (told : Told id place.upload.session place.world.history)
    {request : Request} {marked : Marked Phase}
    (plain : ∀ answer,
      (host.poll place.world.world place.upload.session request
          marked.phase).outcome = .finished answer →
        (Event.answered request answer).Plain) :
    let heard := place.hear
      (host.recording.poll place.world place.upload.session request marked)
    Told id heard.upload.session heard.world.history := by
  intro heard
  rw [show heard.upload.session = _ from Upload.session_hear _ _]
  apply told.witness (Event.plain_event marked request)
  intro answer seen
  generalize (host.poll place.world.world place.upload.session request
    marked.phase).outcome = outcome at plain seen
  cases outcome with
  | waiting phase => cases seen
  | panicked => cases seen
  | finished result =>
      obtain rfl := Option.some.inj seen
      exact plain result rfl

/-- The source may be asked for a buffer. -/
theorem Told.hear_pull
    (told : Told id place.upload.session place.world.history)
    (content : Content) :
    let after := (host.recording.source.pull place content).1
    Told id after.upload.session after.world.history := by
  intro after
  rw [show after.upload.session = _ from Upload.session_hear _ _]
  exact told.witness ⟨rfl, Bool.false_ne_true, fun _ => trivial⟩
    fun event seen => Event.plain_pull _ seen

/-- The cutter may ask the source for as many buffers as it takes. -/
theorem Told.poll_cutter
    (told : Told id place.upload.session place.world.history)
    {after : Place (Recorded World) Content (Marked Phase)}
    {cutter : Cutter Content} {outcome : Cutter.Outcome}
    (polled :
      place.upload.cutter.poll host.recording.source place =
        (after, cutter, outcome)) :
    Told id after.upload.session after.world.history := by
  let keeps
      (before after : Place (Recorded World) Content (Marked Phase)) :=
    Told id before.upload.session before.world.history →
      Told id after.upload.session after.world.history
  have kept :
      keeps place
        (place.upload.cutter.poll host.recording.source place).1 :=
    Cutter.poll_world (R := keeps) (fun _ told => told)
      (fun first second told => second (first told))
      (fun _ content told => told.hear_pull content)
      place place.upload.cutter
  rw [polled] at kept
  exact kept told

/-- A part request may be polled, whatever comes of it. -/
theorem Told.heardPart (host : Host World Content Phase)
    (told : Told id place.upload.session place.world.history)
    (flight : Flight (Marked Phase))
    (queued : List (Flight (Marked Phase))) :
    let after := place.heardPart host.recording flight queued
    Told id after.upload.session after.world.history := by
  let polling := place.become
    (place.upload.withPool (place.upload.pool.polling flight queued))
  have told :
      Told id polling.upload.session polling.world.history := told
  exact told.hear_poll fun _ _ => ⟨rfl, Bool.false_ne_true, fun _ => trivial⟩

/-- Sending a part changes nothing that a history tells of. -/
theorem Told.sendPart {Phase : Type} {host : Host World Content Phase}
    {upload : Upload Content Phase} {body : Bytes} {history : History}
    (told : Told id upload.session history) :
    Told id (upload.sendPart host body).session history := by
  rw [Upload.sendPart]
  dsimp only
  split <;> exact told.congr rfl rfl rfl

/-- A step that does not complete the upload is as its history allows. -/
theorem Told.step
    (told : Told id place.upload.session place.world.history)
    {later : Place (Recorded World) Content (Marked Phase)}
    {outcome : Option Outcome}
    (step : Step host.recording place later outcome)
    (losing : ∀ completion,
      outcome ≠ some (.resolved (.ok completion))) :
    Told id later.upload.session later.world.history := by
  cases step with
  | withdrawn => exact told.congr rfl rfl rfl
  | waiting => exact told.heardPart host _ _
  | recalled => exact (told.heardPart host _ _).congr rfl rfl rfl
  | received => exact (told.heardPart host _ _).congr rfl rfl rfl
  | @refused flight queued _ _ opened front wanted answer left =>
      subst left
      have heard := told.heardPart host flight queued
      exact Told.fail host.recording (heard.congr rfl rfl rfl)
  | resting => exact told
  | starved may polled =>
      have cut := told.poll_cutter polled
      exact cut
  | cut may polled =>
      have cut := told.poll_cutter polled
      exact Told.sendPart cut
  | spoiled may polled =>
      have cut := told.poll_cutter polled
      exact Told.fail host.recording cut
  | exhausted may polled =>
      exact (told.poll_cutter polled).congr rfl rfl rfl
  | snapped may polled =>
      have cut := told.poll_cutter polled
      exact cut
  | closes => exact told.congr rfl rfl rfl
  | stumbles => exact told.congr rfl rfl rfl
  | parks => exact told
  | unclosed => exact told
  | closing unaborted closed wanted answer kept =>
      have waits := (Response.eq_of_mark_eq_waiting answer).1
      refine told.hear_poll fun result finished => ?_
      rw [waits] at finished
      cases finished
  | reopened unaborted closed wanted answer cancelled =>
      have waits := (Response.eq_of_mark_eq_waiting answer).1
      refine told.hear_poll fun result finished => ?_
      rw [waits] at finished
      cases finished
  | rejected unaborted closed wanted answer left =>
      subst left
      have fails := Response.eq_of_mark_eq_finished answer
      refine Told.fail host.recording (told.hear_poll ?_)
      intro result finished
      rw [fails] at finished
      obtain rfl := Response.finished.inj finished
      exact ⟨rfl, Bool.false_ne_true, fun _ => trivial⟩
  | completes => exact absurd rfl (losing _)
  | collapsed unaborted closed wanted answer =>
      have breaks := (Response.eq_of_mark_eq_panicked answer).1
      have heard := told.hear_poll fun result finished => by
        rw [show (host.poll _ _ _ _).outcome = _ from breaks] at finished
        cases finished
      exact heard.congr rfl rfl rfl
  | aborting | aborted =>
      exact told.hear_poll fun _ _ =>
        ⟨rfl, Bool.false_ne_true, fun _ => trivial⟩

/-- A failing upload that is paused after all resolves as paused. -/
theorem Upload.parks_fail {Phase : Type} (host : Host World Content Phase)
    {upload : Upload Content Phase} {failure : Failure} {outcome : Outcome}
    (same : upload.session.target.id = id)
    (resolves : some outcome = (upload.fail host failure).2)
    (paused : (upload.fail host failure).1.session.verdict = .paused) :
    outcome.Parks id := by
  rw [Upload.fail] at resolves paused
  cases verdict : upload.session.verdict with
  | running =>
      rw [verdict] at resolves
      cases resolves
  | paused =>
      rw [verdict] at resolves
      obtain rfl := Option.some.inj resolves
      exact congrArg Failure.paused same
  | failed =>
      rw [verdict] at paused
      cases verdict.symm.trans paused

/-- A poll that leaves an upload paused goes on, or says that it is. -/
theorem Outcome.parks_of_step {Phase : Type}
    {host : Host World Content Phase}
    {place later : Place World Content Phase} {outcome : Outcome}
    {target : Target} {plan : Plan} {existing : PartTable Receipt}
    (sound : place.upload.Sound target plan existing)
    (step : Step host place later (some outcome))
    (paused : later.upload.session.verdict = .paused)
    (losing : ∀ completion, outcome ≠ .resolved (.ok completion)) :
    outcome.Parks target.id := by
  have ending (failure : Failure)
      (resolves : some outcome =
        some (.resolved (.error failure)))
      (parks : failure = .paused target.id) :
      outcome.Parks target.id := by
    obtain rfl := Option.some.inj resolves
    exact parks
  have waiting (pending : some outcome = some .pending) :
      outcome.Parks target.id := by
    obtain rfl := Option.some.inj pending
    exact trivial
  have breaking (panic : Panic)
      (broken : some outcome = some (.faulted (.panicked panic))) :
      outcome.Parks target.id := by
    obtain rfl := Option.some.inj broken
    exact trivial
  have named {upload : Upload Content Phase}
      (sound : upload.Sound target plan existing) :
      upload.session.pausedFailure = .paused target.id :=
    congrArg (fun target : Target => Failure.paused target.id) sound.aimed
  generalize last : some outcome = final at step
  cases step with
  | refused opened front wanted answer left =>
      subst left
      have heard := sound.heard (Upload.heard_heardPart host front)
      refine Upload.parks_fail host ?_ last paused
      exact congrArg Target.id heard.aimed
  | resting => exact waiting last
  | starved => exact waiting last
  | spoiled may polled =>
      have heard := sound.heard (Cutter.polled host polled).heard
      refine Upload.parks_fail host ?_ last paused
      exact congrArg Target.id heard.aimed
  | snapped => exact breaking _ last
  | stumbles opened may missing =>
      simp only [Session.mayComplete, Bool.and_eq_true,
        decide_eq_true_eq] at may
      cases may.1.2.symm.trans paused
  | parks opened was => exact ending _ last (named sound)
  | unclosed => exact ending _ last (named sound)
  | closing => exact waiting last
  | @reopened closing =>
      have heard := sound.heard (place.heard (host.askClosing place closing))
      exact ending _ last (named heard)
  | @rejected closing _ _ unaborted closed wanted answer left =>
      subst left
      have heard := sound.heard (place.heard (host.askClosing place closing))
      refine Upload.parks_fail host ?_ last paused
      exact congrArg Target.id heard.aimed
  | completes =>
      exact absurd (Option.some.inj last) (losing _)
  | collapsed => exact breaking _ last
  | aborting => exact waiting last
  | @aborted phase _ begun answered =>
      have heard := place.heard (host.askAbort place phase)
      have failed :=
        (sound.heard heard).aborting (by simp [heard.abort, begun])
      cases failed.symm.trans paused
  | _ => cases last

/-- A poll that completes an upload wins, and its history allows that. -/
theorem Told.step_ok {target : Target} {plan : Plan}
    {existing : PartTable Receipt}
    (sound : place.upload.Sound target plan existing)
    (unresolved : place.upload.resolved = false)
    (told : Told id place.upload.session place.world.history)
    {later : Place (Recorded World) Content (Marked Phase)}
    {completion : Completion}
    (step : Step host.recording place later
      (some (.resolved (.ok completion)))) :
    let after := later.note (.returned (.resolved (.ok completion)))
    Told id after.upload.session after.world.history := by
  rcases step.completes_of_ok with ⟨closing, done⟩
  have closes := sound.closing closing done.closed
  -- The upload runs, so no checkpoint was handed out before this poll.
  have unhanded : ¬ place.world.history.Handed := by
    intro handed
    have going : ¬ place.world.history.Won := by
      rw [told.won]
      intro completed
      rw [sound.completed completed] at unresolved
      cases unresolved
    have cancelled := closes.cancelled (told.paused handed going)
    rw [done.wanted] at cancelled
    cases cancelled
  have wins := Response.eq_of_mark_eq_finished done.answer
  have event := Event.plain_event closing.phase
    (.complete place.upload.session.target closing.receipts)
  have begun := told.note event.silent event.losing fun _ => event.stays id
  rw [done.reached]
  unfold Place.hear Place.become Place.note Host.askClosing
  unfold Host.recording Recorded.witness
  dsimp only
  rw [wins]
  generalize (host.poll place.world.world place.upload.session
    (.complete place.upload.session.target closing.receipts)
    closing.phase.phase) = reply
  have heard := Told.hear
    ({ place.world with world := reply.world }.note
      place.upload.session
      (closing.phase.event
        (.complete place.upload.session.target closing.receipts)))
    begun reply.signals
  obtain ⟨pauses, split, each⟩ := Recorded.history_hear
    ({ place.world with world := reply.world }.note
      place.upload.session
      (closing.phase.event
        (.complete place.upload.session.target closing.receipts)))
    place.upload.session reply.signals
  rw [Recorded.note, ← List.append_cons] at split
  apply heard.win split unhanded
  · rw [Marked.event]
    split <;> rfl
  · intro pause member
    rcases each pause member with ⟨answer, same⟩
    rw [same]
    rfl
  · rfl
  · rfl
  · change (place.upload.hear reply.signals).session.target = _
    rw [Upload.session_hear]
  · rfl

end Steps

/-! ## Every run is allowed -/

theorem Session.verdict_of_state {session : Session}
    (paused : session.state = .paused) : session.verdict = .paused := by
  rw [state] at paused
  grind

/-- What is known of a recorded upload and its history. -/
structure Told.Kept (target : Target) (plan : Plan)
    (existing : PartTable Receipt)
    (place : Place (Recorded World) Content (Marked Phase)) : Prop where
  sound : place.upload.Sound target plan existing
  told : Told target.id place.upload.session place.world.history

namespace Told.Kept

variable {target : Target} {plan : Plan} {existing : PartTable Receipt}
  {place : Place (Recorded World) Content (Marked Phase)}

theorem poll (host : Host World Content Phase)
    (kept : Told.Kept target plan existing place) :
    Told.Kept target plan existing (place.record host .poll) := by
  refine ⟨kept.sound.poll host.recording, ?_⟩
  change Told target.id (place.poll host.recording).1.upload.session
    ((place.poll host.recording).1.world.history ++
      [⟨(place.poll host.recording).1.upload.session,
        .returned (place.poll host.recording).2⟩])
  cases resolved : place.upload.resolved with
  | true =>
      rw [Place.poll_of_resolved host.recording resolved]
      exact kept.told.note rfl Bool.false_ne_true fun _ => trivial
  | false =>
      obtain ⟨middle, still, unresolved, last⟩ :=
        Place.poll_keeps (Told.Kept target plan existing)
          (fun kept unresolved step =>
            ⟨kept.sound.step unresolved step,
              kept.told.step step nofun⟩)
          resolved
          ⟨kept.sound.activate, kept.told.congr rfl rfl rfl⟩
      generalize place.poll host.recording = polled at last
      rcases polled with ⟨later, outcome⟩
      by_cases ok : ∃ completion, outcome = .resolved (.ok completion)
      · rcases ok with ⟨completion, rfl⟩
        exact still.told.step_ok still.sound unresolved last
      · rw [not_exists] at ok
        have told := still.told.step last
          fun completion same => ok completion (Option.some.inj same)
        refine told.note rfl Bool.false_ne_true fun paused => ?_
        exact Outcome.parks_of_step still.sound last
          (Session.verdict_of_state paused) ok

theorem record (host : Host World Content Phase)
    (kept : Told.Kept target plan existing place)
    (move : Move World Content) :
    Told.Kept target plan existing (place.record host move) := by
  cases move with
  | poll => exact kept.poll host
  | pause =>
      refine ⟨kept.sound.heard (Upload.heard_pause _), ?_⟩
      have told := kept.told.pause
      rw [← place.upload.session_pause.1,
        ← place.upload.session_pause.2] at told
      exact told
  | wake number =>
      have heard :=
        Upload.heard_signal place.upload (.wakePart number)
      refine ⟨kept.sound.heard heard, ?_⟩
      change Told target.id
        (place.upload.signal (.wakePart number)).session _
      rw [Upload.session_wake]
      exact kept.told
  | change change => exact ⟨kept.sound, kept.told⟩
  | feed feed =>
      exact ⟨kept.sound.move host.recording (.feed feed), kept.told⟩

theorem replay (host : Host World Content Phase)
    (kept : Told.Kept target plan existing place)
    (moves : List (Move World Content)) :
    Told.Kept target plan existing (place.replay host moves) := by
  induction moves generalizing place with
  | nil => exact kept
  | cons move moves ih => exact ih (kept.record host move)

end Told.Kept

/-! ## The worth of a checkpoint -/

theorem Told.kept_begin (world : World) (target : Target) (plan : Plan)
    (receipts : List Receipt) (limit : Option Nat) (content : Content) :
    Told.Kept target plan
      (Progress.ofReceipts
        (receipts.filter fun receipt =>
          plan.contains receipt.number)).existing
      (Place.begin world
        (.ofPlan target plan receipts limit content) :
          Place (Recorded World) Content (Marked Phase)) where
  sound := Upload.sound_ofPlan target plan receipts limit content
  told :=
    { same := rfl
      allowed := History.always_nil
      paused := fun handed => by
        rcases handed with ⟨moment, member, _⟩
        cases member
      won := by
        refine iff_of_false ?_ Bool.noConfusion
        rintro ⟨moment, member, _⟩
        cases member
      settled := fun _ final => by cases final }

/--
Holds when a pause comes in the middle of a poll of the request that completes
the upload, and that poll finds the request done.
-/
def History.Overtaken (before after : History) : Prop :=
  ∃ front asked early late won rest,
    before = front ++ asked :: early ∧ after = late ++ won :: rest ∧
      asked.event.finishes ∧ won.event.wins ∧
      ∀ pause ∈ early ++ late, pause.event.isPause

/-- A success after a checkpoint has overtaken it. -/
theorem History.overtaken_of_wins {id : UploadId} {history : History}
    (allowed : history.Always (Allowed id))
    {before middle rest : History} {pause won : Moment}
    (split : history = before ++ pause :: (middle ++ won :: rest))
    (handed : pause.event.checkpoint? ≠ none) (wins : won.event.wins) :
    Overtaken before (middle ++ won :: rest) := by
  have next := allowed (before ++ pause :: middle) won rest
    (by rw [split]; simp)
  obtain ⟨front, asked, pauses, same, unhanded, finishes, each⟩ :=
    next.wins wins
  have outside : pause ∉ front := fun member =>
    unhanded ⟨pause, member, handed⟩
  have differs : asked ≠ pause := by
    rintro rfl
    exact handed (by
      rw [Event.checkpoint?]
      unfold Event.finishes at finishes
      grind)
  rcases List.append_eq_append_iff.mp same with
    ⟨gap, rfl, tail⟩ | ⟨gap, rfl, tail⟩
  · cases gap with
    | nil => exact absurd (List.cons.inj tail).1.symm differs
    | cons first gap =>
        obtain rfl := (List.cons.inj tail).1
        exact absurd (by simp) outside
  · cases gap with
    | nil => exact absurd (List.cons.inj tail).1 differs
    | cons first early =>
        rcases List.cons.inj tail with ⟨rfl, rfl⟩
        refine ⟨front, asked, early, middle, won, rest, rfl, rfl,
          finishes, wins, ?_⟩
        intro moment member
        apply each moment
        rcases List.mem_append.mp member with member | member
        · exact List.mem_append_left _ member
        · exact List.mem_append_right _ (List.mem_cons_of_mem _ member)

/-- The poll in which a request completes the upload returns the object. -/
theorem Told.returns_of_wins {id : UploadId} {session : Session}
    {history : History} (told : Told id session history)
    {before rest : History} {won : Moment}
    (split : history = before ++ won :: rest) (wins : won.event.wins) :
    ∃ next ∈ rest, ∃ completion,
      next.event = .returned (.resolved (.ok completion)) := by
  cases rest with
  | nil =>
      refine absurd wins (told.settled won ?_)
      rw [split, List.getLast?_concat]
  | cons next rest =>
      have allowed := told.allowed (before ++ [won]) next rest
        (by rw [split, List.append_cons])
      obtain ⟨completion, returned⟩ :=
        allowed.returns won (List.getLast?_concat ..) wins
      exact ⟨next, List.mem_cons_self, completion, returned⟩

/--
A checkpoint is final unless its pause was asked for in the middle of the
poll in which the upload completed: from then on the upload is seen as
paused, never resolves but as paused, and hands out checkpoints of its own.
-/
theorem staysPaused_iff (host : Host World Content Phase)
    (world : World) (target : Target) (plan : Plan)
    (receipts : List Receipt) (limit : Option Nat) (content : Content)
    (moves : List (Move World Content)) {before after : History}
    {session : Session} {answer : Session.PauseAnswer}
    {checkpoint : Checkpoint}
    (recorded :
      ((Place.begin world (.ofPlan target plan receipts limit content)).replay
        host moves).world.history =
          before ++ ⟨session, .paused answer⟩ :: after)
    (handed : answer.checkpoint? = some checkpoint) :
    (∀ moment ∈ (⟨session, .paused answer⟩ :: after : History),
        moment.StaysPaused checkpoint.id) ↔
      ¬ History.Overtaken before after := by
  have told := ((Told.kept_begin world target plan receipts limit
    content).replay host moves).told
  rw [recorded] at told
  have hands := told.allowed before _ after rfl
  rcases hands.hands checkpoint handed with ⟨paused, same, going⟩
  rw [same]
  constructor
  · rintro stays ⟨front, asked, early, late, won, rest, rfl, rfl,
      finishes, wins, each⟩
    have split :
        front ++ asked :: early ++
            ⟨session, .paused answer⟩ :: (late ++ won :: rest) =
          (front ++ asked :: early ++ ⟨session, .paused answer⟩ :: late) ++
            won :: rest := by
      simp
    obtain ⟨next, member, completion, returned⟩ :=
      told.returns_of_wins split wins
    have parks := (stays next (by simp [member])).2
    rw [returned] at parks
    exact parks
  · intro lasting moment member
    rcases List.mem_cons.mp member with rfl | later
    · exact ⟨paused, checkpoint, handed, same⟩
    · have losing : ∀ moment ∈ after, ¬ moment.event.wins := by
        intro won member wins
        rcases List.append_of_mem member with ⟨middle, rest, rfl⟩
        exact lasting (History.overtaken_of_wins told.allowed rfl
          (by simp [Event.checkpoint?, handed]) wins)
      rcases List.append_of_mem later with ⟨middle, rest, rfl⟩
      have next := told.allowed
        (before ++ ⟨session, .paused answer⟩ :: middle) moment rest
        (by simp)
      refine next.stays ?_ ?_ (losing moment (by simp))
      · exact ⟨⟨session, .paused answer⟩, by simp,
          by simp [Event.checkpoint?, handed]⟩
      · rintro ⟨other, member, wins⟩
        rcases List.mem_append.mp member with early | late
        · exact going ⟨other, early, wins⟩
        · rcases List.mem_cons.mp late with rfl | late
          · exact Bool.false_ne_true wins
          · exact losing other (by simp [late]) wins

/--
A host that serves every request when it is first polled, and asks for a pause
in the middle of completing an upload.
-/
def Host.hasty : Host Unit Unit Unit where
  unsent _ := ()
  poll _ _ request _ :=
    { world := ()
      signals :=
        match request with
        | .complete _ _ => [.pause]
        | _ => []
      outcome :=
        match request with
        | .part _ number _ =>
          .finished (.ok { number, tag := ⟨"etag"⟩, size := 0 })
        | .complete target _ =>
          .finished (.ok { location := target.location, tag := ⟨"etag"⟩ })
        | _ => .waiting () }
  size _ := 0
  pull _ _ _ := { world := (), outcome := .ended () }

/-- One poll of an upload of no bytes on that host. -/
def Host.hastyHistory : History :=
  ((Place.begin ()
      (.ofPlan ⟨⟨"upload-1"⟩, .ofPair "bucket" "key"⟩ (.ofLength 0 1) []
        none ())).replay hasty [.poll]).world.history

/-- A checkpoint that is handed out is the answer to a pause. -/
theorem History.split_at_checkpoint {history : History} {count : Nat}
    (handed :
      (history.drop count).head?.any (·.event.checkpoint?.isSome) =
        true) :
    ∃ session answer checkpoint,
      history =
          history.take count ++
            ⟨session, .paused answer⟩ :: history.drop (count + 1) ∧
        answer.checkpoint? = some checkpoint := by
  have split := List.take_append_drop count history
  have rest : (history.drop count).tail = history.drop (count + 1) :=
    List.tail_drop
  cases dropped : history.drop count with
  | nil =>
      rw [dropped] at handed
      cases handed
  | cons moment later =>
      rw [dropped] at handed split rest
      rcases moment with ⟨session, event⟩
      cases event with
      | paused answer =>
          rcases Option.isSome_iff_exists.mp handed with ⟨checkpoint, same⟩
          refine ⟨session, answer, checkpoint, ?_, same⟩
          rw [← rest]
          exact split.symm
      | _ => cases handed

/-- On that host a checkpoint is handed out for an upload that completes. -/
theorem overtaken_hasty :
    ∃ before session answer checkpoint after,
      Host.hastyHistory = before ++ ⟨session, .paused answer⟩ :: after ∧
        answer.checkpoint? = some checkpoint ∧
        ¬ ∀ moment ∈ (⟨session, .paused answer⟩ :: after : History),
          moment.StaysPaused checkpoint.id := by
  have handed :
      (Host.hastyHistory.drop 5).head?.any
        (·.event.checkpoint?.isSome) = true := by
    decide +kernel
  have won : (Host.hastyHistory.drop 6).any (·.event.wins) = true := by
    decide +kernel
  obtain ⟨session, answer, checkpoint, split, given⟩ :=
    History.split_at_checkpoint handed
  rcases List.any_eq_true.mp won with ⟨last, member, wins⟩
  rcases List.append_of_mem member with ⟨late, rest, after⟩
  refine ⟨_, session, answer, checkpoint, _, split, given, ?_⟩
  rw [staysPaused_iff Host.hasty () _ _ _ _ _ [.poll] split given, not_not]
  rw [after] at split ⊢
  have told := ((Told.kept_begin () ⟨⟨"upload-1"⟩, .ofPair "bucket" "key"⟩
    (.ofLength 0 1) [] none ()).replay Host.hasty [.poll]).told
  exact History.overtaken_of_wins told.allowed split
    (by simp [Event.checkpoint?, given]) wins

end Multipart
