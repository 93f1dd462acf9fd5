import Mathlib.Data.List.Chain
import Multipart.Proofs.Aborting.Failing

/-!
# What becomes of an upload that is aborted

An upload that has failed refuses every pause and has no request left but its
abort.  So all that is written down after the abort was sent is that it is
polled again, until it is answered and the poll returns the failure.  The main
statements, `Dying.of_due` and `Dying.step`, say this for the step that sends
the abort and for all that come after it.
-/

namespace Multipart

variable {World Content Phase : Type} {target : Target} {plan : Plan}
  {existing : PartTable Receipt} {host : Host World Content Phase}
  {capacity : Option Nat} {failure : Failure}
  {place later : Place (Recorded World) Content (Marked Phase)}

/-! ## What is left to an upload that is aborted -/

/-- What a poll of an upload that is aborted for a failure comes to. -/
def Outcome.OnlyAborts (failure : Failure) : Outcome → Prop
  | .pending => True
  | .resolved result => result = .error failure
  | .faulted fault => fault = .alreadyResolved

namespace Event

/-- What may happen to an upload that is aborted for a failure. -/
def OnlyAborts (target : Target) (failure : Failure) : Event → Prop
  | .asked request => request = .abort target
  | .answered request _ => request = .abort target
  | .paused answer => answer = .refused
  | .returned outcome => outcome.OnlyAborts failure
  | _ => False

/-- Holds when the abort of an upload has finished. -/
def isAborted : Event → Bool
  | .answered (.abort _) _ => true
  | _ => false

end Event

/-- What may happen to an upload after its abort was sent. -/
structure History.Dwindles (target : Target) (failure : Failure)
    (history : History) : Prop where
  only : ∀ moment ∈ history, moment.event.OnlyAborts target failure
  /-- The poll in which the abort finishes ends with the failure. -/
  ends : history.IsChain fun moment next =>
    moment.event.isAborted = true →
      next.event = .returned (.resolved (.error failure))
  rests : ∀ last ∈ history.getLast?, last.event.isAborted = false

namespace History.Dwindles

variable {history more : History}

theorem append (dwindles : history.Dwindles target failure)
    (later : Dwindles target failure more) :
    Dwindles target failure (history ++ more) where
  only moment member :=
    (List.mem_append.mp member).elim (dwindles.only moment)
      (later.only moment)
  ends := List.isChain_append.mpr
    ⟨dwindles.ends, later.ends, fun last final _ _ aborted => by
      cases (dwindles.rests last final).symm.trans aborted⟩
  rests last final := by
    rw [List.getLast?_append] at final
    cases found : more.getLast? with
    | none =>
        rw [found, Option.none_or] at final
        exact dwindles.rests last final
    | some other =>
        rw [found, Option.some_or] at final
        exact later.rests last (found ▸ final)

/-- The abort may go on in any number of events. -/
theorem of_going (only : ∀ moment ∈ history,
      moment.event.OnlyAborts target failure)
    (going : ∀ moment ∈ history, moment.event.isAborted = false) :
    Dwindles target failure history where
  only
  ends := by
    rw [List.isChain_iff_getElem]
    intro index within aborted
    cases (going _ (List.getElem_mem _)).symm.trans aborted
  rests last final := going last (List.mem_of_mem_getLast? final)

theorem singleton (session : Session) {event : Event}
    (only : event.OnlyAborts target failure)
    (going : event.isAborted = false) :
    Dwindles target failure [⟨session, event⟩] := by
  refine of_going ?_ ?_ <;>
  · intro moment member
    obtain rfl := List.mem_singleton.mp member
    assumption

theorem of_refused
    (refused : ∀ moment ∈ history, moment.event = .paused .refused) :
    Dwindles target failure history := by
  refine of_going ?_ ?_ <;>
  · intro moment member
    rw [refused moment member]
    rfl

/-- An abort that finishes ends the upload with the failure. -/
theorem final (session : Session) (answer : Except Failure Unit) :
    Dwindles target failure
      [⟨session, .answered (.abort target) answer⟩,
        ⟨session, .returned (.resolved (.error failure))⟩] where
  only moment member := by
    rcases List.mem_pair.mp member with rfl | rfl
    · exact rfl
    · exact rfl
  ends := List.isChain_pair.mpr fun _ => rfl
  rests last final := by
    obtain rfl := Option.some.inj final
    rfl

end History.Dwindles

/-! ## Polling the abort -/

/-- A session that has failed refuses every pause. -/
theorem Session.pause_of_failed {session : Session}
    (failed : session.verdict = .failed) :
    session.pause = (session, .refused) := by
  rcases session.pause_cases with
    ⟨answer, _⟩ | ⟨_, _, paused⟩ | ⟨_, _, running⟩
  · exact answer
  · cases failed.symm.trans paused
  · cases failed.symm.trans running

theorem Session.hear_of_failed {session : Session}
    (failed : session.verdict = .failed) (signals : List Signal) :
    session.hear signals = session := by
  induction signals with
  | nil => rfl
  | cons first signals ih =>
      cases first with
      | pause =>
          change session.pause.1.hear signals = session
          rw [pause_of_failed failed]
          exact ih
      | wakePart number => exact ih
      | wakeDriver => exact ih
      | note entry => exact ih

namespace Recorded

/-- All that an upload hears which has failed are pauses that it refuses. -/
theorem hear_of_failed {session : Session}
    (failed : session.verdict = .failed) (recorded : Recorded World)
    (signals : List Signal) :
    ∃ pauses, (recorded.hear session signals).history =
        recorded.history ++ pauses ∧
      ∀ moment ∈ pauses, moment.event = .paused .refused := by
  induction signals generalizing recorded with
  | nil => exact ⟨[], (List.append_nil _).symm, by simp⟩
  | cons first signals ih =>
      cases first with
      | pause =>
          obtain ⟨pauses, same, each⟩ :=
            ih (recorded.note session (.paused .refused))
          refine ⟨⟨session, .paused .refused⟩ :: pauses, ?_, ?_⟩
          · change ((recorded.note session.pause.1
              (.paused session.pause.2)).hear session.pause.1
                signals).history = _
            rw [Session.pause_of_failed failed, same, List.append_cons]
            rfl
          · simpa using each
      | wakePart number => exact ih recorded
      | wakeDriver => exact ih recorded
      | note entry => exact ih recorded

/-- What a poll of an upload that has failed adds to its history. -/
theorem witness_of_failed {Outcome : Type} {session : Session}
    (failed : session.verdict = .failed) (recorded : Recorded World)
    (event : Event) (reply : Reply World Outcome) (result : Option Event) :
    ∃ pauses,
      (recorded.witness session event reply result).history =
        recorded.history ++ ⟨session, event⟩ ::
          (pauses ++ result.toList.map (⟨session, ·⟩)) ∧
      ∀ moment ∈ pauses, moment.event = .paused .refused := by
  obtain ⟨pauses, same, each⟩ := hear_of_failed failed
    ({ recorded with world := reply.world }.note session event)
    reply.signals
  refine ⟨pauses, ?_, each⟩
  have same : _ = (recorded.history ++ [_]) ++ pauses := same
  rw [witness, Session.hear_of_failed failed]
  cases result with
  | none => simpa [note?] using same
  | some answer =>
      change (Recorded.hear _ session reply.signals).history ++ [_] = _
      rw [same]
      simp

end Recorded

/-- An abort that was sent, and whose upload keeps its failure. -/
def Upload.Awaits (failure : Failure)
    (upload : Upload Content (Marked Phase)) : Prop :=
  ∀ marked, upload.abort = some marked →
    marked.begun = true ∧ upload.failure = some failure

/-- What a step of an upload that is aborted comes to. -/
structure Step.Aborts (target : Target) (failure : Failure)
    (place later : Place (Recorded World) Content (Marked Phase))
    (marked : Marked Phase) (outcome : Outcome) (tail : History) :
    Prop where
  history :
    (later.note (.returned outcome)).world.history =
      place.world.history ++
        ⟨place.upload.session, marked.event (.abort target)⟩ :: tail
  dwindles : tail.Dwindles target failure
  judged : later.upload.session.verdict = .failed
  awaits : later.upload.Awaits failure

/-- An upload that is aborted polls its abort, and the poll returns. -/
theorem Step.aborts {marked : Marked Phase} {outcome : Option Outcome}
    (aimed : place.upload.session.target = target)
    (judged : place.upload.session.verdict = .failed)
    (begun : place.upload.abort = some marked)
    (kept : place.upload.failure = some failure)
    (step : Step host.recording place later outcome) :
    ∃ returns tail, outcome = some returns ∧
      Step.Aborts target failure place later marked returns tail := by
  subst aimed
  let raw := host.poll place.world.world place.upload.session
    (.abort place.upload.session.target) marked.phase
  let heard := place.hear (host.recording.askAbort place marked)
  have session : heard.upload.session = place.upload.session :=
    (Upload.session_hear _ _).trans (Session.hear_of_failed judged _)
  have failed : heard.upload.session.verdict = .failed := session ▸ judged
  have keeps : heard.upload.failure = some failure :=
    (Upload.heard_hear place.upload raw.signals).failure.trans kept
  obtain ⟨pauses, same, each⟩ := Recorded.witness_of_failed judged
    place.world (marked.event (.abort place.upload.session.target)) raw
    raw.outcome.event?
  have history : heard.world.history = _ := same
  rcases step.of_begun begun with
    ⟨next, answer, rfl, rfl⟩ | ⟨answer, answered, rfl, rfl⟩
  · obtain ⟨waits, sent⟩ := Response.eq_of_mark_eq_waiting answer
    rw [show raw.outcome = _ from waits] at history
    refine ⟨.pending,
      pauses ++ [⟨place.upload.session, .returned .pending⟩], rfl, ?_, ?_,
      failed, ?_⟩
    · change heard.world.history ++
        [⟨heard.upload.session, .returned .pending⟩] = _
      rw [history, session]
      simp [Response.event?]
    · exact (History.Dwindles.of_refused each).append
        (.singleton _ trivial rfl)
    · intro last same
      obtain rfl := Option.some.inj same
      exact ⟨sent, keeps⟩
  · have finished := Response.eq_of_mark_eq_finished answered
    rw [show raw.outcome = _ from finished] at history
    refine ⟨.resolved (.error failure),
      pauses ++
        [⟨place.upload.session,
            .answered (.abort place.upload.session.target) answer⟩,
          ⟨place.upload.session, .returned (.resolved (.error failure))⟩],
      ?_, ?_, ?_, failed, nofun⟩
    · change some (Outcome.resolved (.error (heard.upload.failure.getD _)))
        = _
      rw [keeps, Option.getD_some]
    · change heard.world.history ++
        [⟨heard.upload.session, _⟩] = _
      rw [history, session]
      simp [Response.event?]
    · exact (History.Dwindles.of_refused each).append (.final _ answer)

/-! ## Uploads that were aborted -/

/-- A history in which the upload was aborted for a failure. -/
inductive History.Aborted (target : Target) (capacity : Option Nat)
    (failure : Failure) : History → Prop where
  | intro {front back : History} {session : Session}
      (always : front.Always (Easy capacity))
      (unhanded : ¬ front.Handed)
      (cause : front.cause? session = some failure)
      (dwindles : back.Dwindles target failure) :
      Aborted target capacity failure
        (front ++ ⟨session, .sent (.abort target)⟩ :: back)

theorem History.Aborted.append {history more : History}
    (aborted : history.Aborted target capacity failure)
    (dwindles : more.Dwindles target failure) :
    Aborted target capacity failure (history ++ more) := by
  cases aborted with
  | intro always unhanded cause before =>
      rw [List.append_assoc, List.cons_append]
      exact .intro always unhanded cause (before.append dwindles)

/-- What is known of an upload that was aborted for a failure. -/
structure Dying (target : Target) (capacity : Option Nat)
    (failure : Failure)
    (place : Place (Recorded World) Content (Marked Phase)) : Prop where
  judged : place.upload.session.verdict = .failed
  awaits : place.upload.Awaits failure
  history : place.world.history.Aborted target capacity failure

namespace Dying

/-- An upload that is due to be aborted is aborted by its next step. -/
theorem of_due (due : Due capacity failure place)
    (aimed : place.upload.session.target = target)
    {outcome : Option Outcome}
    (step : Step host.recording place later outcome) :
    ∃ returns, outcome = some returns ∧
      Dying target capacity failure (later.note (.returned returns)) := by
  obtain ⟨marked, begun, unsent⟩ := due.unsent
  obtain ⟨returns, tail, rfl, aborts⟩ :=
    step.aborts aimed due.judged begun due.kept
  refine ⟨returns, rfl, aborts.judged, aborts.awaits, ?_⟩
  rw [aborts.history, Marked.event, unsent]
  exact .intro due.always due.unhanded due.cause aborts.dwindles

/-- An upload that is aborted goes on with its abort. -/
theorem step (dying : Dying target capacity failure place)
    (sound : place.upload.Sound target plan existing)
    (unresolved : place.upload.resolved = false)
    {outcome : Option Outcome}
    (step : Step host.recording place later outcome) :
    ∃ returns, outcome = some returns ∧
      Dying target capacity failure (later.note (.returned returns)) := by
  obtain ⟨marked, begun⟩ :=
    Option.isSome_iff_exists.mp (sound.begun unresolved dying.judged)
  obtain ⟨sent, kept⟩ := dying.awaits marked begun
  obtain ⟨returns, tail, rfl, aborts⟩ :=
    step.aborts sound.aimed dying.judged begun kept
  refine ⟨returns, rfl, aborts.judged, aborts.awaits, ?_⟩
  rw [aborts.history, Marked.event, if_pos sent, List.append_cons]
  refine History.Aborted.append ?_ aborts.dwindles
  apply dying.history.append
  exact .singleton _ rfl rfl

/-- Something else may happen that an abort leaves room for. -/
theorem note (dying : Dying target capacity failure place) {event : Event}
    (only : event.OnlyAborts target failure)
    (going : event.isAborted = false) :
    Dying target capacity failure (place.note event) :=
  ⟨dying.judged, dying.awaits, dying.history.append (.singleton _ only going)⟩

/-- An upload that is aborted refuses to be paused. -/
theorem pause (dying : Dying target capacity failure place) :
    Dying target capacity failure
      (place.pause.note (.paused place.upload.pause.2.1)) := by
  have refused := Session.pause_of_failed dying.judged
  have answer : place.upload.pause.2.1 = .refused := by
    rw [place.upload.session_pause.2, refused]
  have same : place.pause = place := by
    rw [Place.pause, Upload.pause_of_decided]
    · rfl
    · exact .inl (by rw [dying.judged]; nofun)
  rw [same, answer]
  exact dying.note rfl rfl

end Dying

end Multipart
