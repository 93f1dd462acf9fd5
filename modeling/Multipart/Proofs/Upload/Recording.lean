import Multipart.Proofs.Upload.Run

/-!
# Runs that are recorded

What a run does can be seen from its host: the requests that are polled and
their answers, the buffers that are drawn, the pauses that are asked for in
the middle of a poll.  A recorded host serves like the host it is made of and
writes all this down in its own surroundings, moment by moment, each with the
session as it is seen at that moment.  To these moments a recorded run adds
what its polls return and what its pauses are answered.
-/

namespace Multipart

variable {World Content Phase : Type}

/-! ## Moments -/

/-- What happens in the course of a run. -/
inductive Event where
  /-- A request is polled for the first time: it is sent. -/
  | sent (request : Request)
  /-- A request is polled again. -/
  | asked (request : Request)
  /-- A request has finished. -/
  | answered (request : Request) (answer : Except Failure request.Answer)
  /-- The source is asked for a buffer. -/
  | pulled
  /-- The source gives a buffer, or fails. -/
  | drew (buffer : Except Failure Bytes)
  /-- The source has ended. -/
  | ended
  /-- A handle is asked for a pause. -/
  | paused (answer : Session.PauseAnswer)
  /-- A poll returns. -/
  | returned (outcome : Outcome)

/-- The checkpoint that is handed out at an event. -/
def Event.checkpoint? : Event → Option Checkpoint
  | .paused answer => answer.checkpoint?
  | _ => none

/-- An event, with the session as it is seen then. -/
structure Moment where
  session : Session
  event : Event

/-- The moments of a run, in their order. -/
abbrev History := List Moment

/-- Surroundings in which the moments of a run are written down. -/
structure Recorded (World : Type) where
  world : World
  history : History := []

namespace Recorded

/-- The surroundings once an event was written down. -/
def note (recorded : Recorded World) (session : Session)
    (event : Event) : Recorded World :=
  { recorded with history := recorded.history ++ [⟨session, event⟩] }

/-- The surroundings once the pauses among the signals were written down. -/
def hear (recorded : Recorded World) (session : Session) :
    List Signal → Recorded World
  | [] => recorded
  | .pause :: signals =>
    (recorded.note session.pause.1 (.paused session.pause.2)).hear
      session.pause.1 signals
  | .wakePart _ :: signals => recorded.hear session signals
  | .wakeDriver :: signals => recorded.hear session signals
  | .note _ :: signals => recorded.hear session signals

end Recorded

/-- The session after the signals of a poll. -/
def Session.hear (session : Session) : List Signal → Session
  | [] => session
  | .pause :: signals => session.pause.1.hear signals
  | .wakePart _ :: signals => session.hear signals
  | .wakeDriver :: signals => session.hear signals
  | .note _ :: signals => session.hear signals

/-- A client's state of a request, and whether the request was sent. -/
structure Marked (Phase : Type) where
  phase : Phase
  begun : Bool := false

/-! ## A recorded host -/

namespace Marked

/-- What a request that is polled is seen as. -/
def event (marked : Marked Phase) (request : Request) : Event :=
  if marked.begun then .asked request else .sent request

end Marked

namespace Response

/-- A response to a request that has been sent. -/
def mark {request : Request} :
    Response Phase request → Response (Marked Phase) request
  | .waiting phase => .waiting { phase, begun := true }
  | .finished answer => .finished answer
  | .panicked panic phase => .panicked panic { phase, begun := true }

/-- The event a response stands for, if it is one. -/
def event? {request : Request} :
    Response Phase request → Option Event
  | .waiting _ => none
  | .finished answer => some (.answered request answer)
  | .panicked _ _ => none

theorem eq_of_mark_eq_finished {request : Request}
    {response : Response Phase request}
    {answer : Except Failure request.Answer}
    (same : response.mark = .finished answer) :
    response = .finished answer := by
  cases response with
  | waiting phase => cases same
  | finished other =>
      obtain rfl := Response.finished.inj same
      rfl
  | panicked => cases same

theorem eq_of_mark_eq_waiting {request : Request}
    {response : Response Phase request} {marked : Marked Phase}
    (same : response.mark = .waiting marked) :
    response = .waiting marked.phase ∧ marked.begun = true := by
  cases response with
  | waiting phase =>
      obtain rfl := Response.waiting.inj same
      exact ⟨rfl, rfl⟩
  | finished other => cases same
  | panicked => cases same

theorem eq_of_mark_eq_panicked {request : Request}
    {response : Response Phase request} {panic : request.Breakage}
    {marked : Marked Phase} (same : response.mark = .panicked panic marked) :
    response = .panicked panic marked.phase ∧ marked.begun = true := by
  cases response with
  | waiting phase => cases same
  | finished other => cases same
  | panicked other phase =>
      obtain ⟨rfl, rfl⟩ := Response.panicked.inj same
      exact ⟨rfl, rfl⟩

/-- All that a response stands for is the answer to its request. -/
theorem eq_of_mem_event {request : Request}
    {response : Response Phase request} {event : Event}
    (member : event ∈ response.event?.toList) :
    ∃ answer, response = .finished answer ∧
      event = .answered request answer := by
  cases response with
  | waiting phase => cases member
  | finished answer => exact ⟨answer, rfl, List.mem_singleton.mp member⟩
  | panicked => cases member

end Response

/-- The event that a pull stands for, if it is one. -/
def Pull.event? {size : Content → Nat} {content : Content} :
    Pull size content → Option Event
  | .pending _ => none
  | .item buffer _ _ => some (.drew buffer)
  | .ended _ => some .ended

/-- A pull stands for a buffer, a failure or the end. -/
theorem Pull.eq_of_mem_event {size : Content → Nat} {content : Content}
    {pull : Pull size content} {event : Event}
    (member : event ∈ pull.event?.toList) :
    event = .ended ∨ ∃ buffer, event = .drew buffer := by
  cases pull with
  | pending => cases member
  | item buffer => exact .inr ⟨buffer, List.mem_singleton.mp member⟩
  | ended => exact .inl (List.mem_singleton.mp member)

namespace Recorded

/-- The surroundings once an event was written down, if there is one. -/
def note? (recorded : Recorded World) (session : Session) :
    Option Event → Recorded World
  | none => recorded
  | some event => recorded.note session event

/-- The surroundings after a reply, and all that led to its outcome. -/
def witness {Outcome : Type} (recorded : Recorded World)
    (session : Session) (event : Event) (reply : Reply World Outcome)
    (result : Option Event) : Recorded World :=
  (({ recorded with world := reply.world }.note session event).hear
    session reply.signals).note? (session.hear reply.signals) result

end Recorded

namespace Host

/-- A host that serves like another, and writes down what it is asked. -/
def recording (host : Host World Content Phase) :
    Host (Recorded World) Content (Marked Phase) where
  unsent request := { phase := host.unsent request }
  poll recorded session request marked :=
    let reply := host.poll recorded.world session request marked.phase
    { world :=
        recorded.witness session (marked.event request) reply
          reply.outcome.event?
      signals := reply.signals
      outcome := reply.outcome.mark }
  size := host.size
  pull recorded session content :=
    let reply := host.pull recorded.world session content
    { world :=
        recorded.witness session .pulled reply reply.outcome.event?
      signals := reply.signals
      outcome := reply.outcome }

end Host

/-! ## Recorded runs -/

namespace Place

/-- An upload that is about to be driven, with nothing written down yet. -/
def begin (world : World) (upload : Upload Content (Marked Phase)) :
    Place (Recorded World) Content (Marked Phase) where
  world := { world }
  upload

/-- Write down what has just happened. -/
def note (place : Place (Recorded World) Content (Marked Phase))
    (event : Event) : Place (Recorded World) Content (Marked Phase) :=
  { place with world := place.world.note place.upload.session event }

/-- Make one move and write down what comes of it. -/
def record (host : Host World Content Phase)
    (place : Place (Recorded World) Content (Marked Phase)) :
    Move World Content → Place (Recorded World) Content (Marked Phase)
  | .poll =>
    let polled := place.poll host.recording
    polled.1.note (.returned polled.2)
  | .pause => place.pause.note (.paused place.upload.pause.2.1)
  | .wake number => place.wake number
  | .change change =>
    place.change fun recorded =>
      { recorded with world := change recorded.world }
  | .feed feed => place.feed feed

/-- Make moves one after another and write down what comes of them. -/
def replay (host : Host World Content Phase)
    (place : Place (Recorded World) Content (Marked Phase))
    (moves : List (Move World Content)) :
    Place (Recorded World) Content (Marked Phase) :=
  moves.foldl (record host) place

end Place

/-! ## What holds throughout a history -/

/-- What a list has when one more comes is this one, or it had it before. -/
theorem split_concat {Element : Type} {front before after : List Element}
    {last middle : Element}
    (split : front ++ [last] = before ++ middle :: after) :
    (before = front ∧ middle = last) ∨
      ∃ rest, front = before ++ middle :: rest := by
  rcases List.append_eq_append_iff.mp split with
    ⟨more, rfl, same⟩ | ⟨more, rfl, same⟩
  · cases more <;> simp_all
  · cases more <;> simp_all

namespace History

/-- Holds when every moment is as those before it allow. -/
def Always (allowed : History → Moment → Prop) (history : History) :
    Prop :=
  ∀ before moment after,
    history = before ++ moment :: after → allowed before moment

variable {allowed : History → Moment → Prop}

theorem always_nil : Always allowed [] := by
  intro before moment after split
  cases before <;> cases split

/-- One more moment has to be as all the others allow. -/
theorem always_concat {history : History} {last : Moment}
    (always : Always allowed history) (next : allowed history last) :
    Always allowed (history ++ [last]) := by
  intro before moment after split
  rcases split_concat split with ⟨rfl, rfl⟩ | ⟨rest, rfl⟩
  · exact next
  · exact always before moment rest rfl

end History

/-! ## The session in recorded surroundings -/

/-- A pause is refused, granted again, or granted to a running upload. -/
theorem Session.pause_cases (session : Session) :
    (session.pause = (session, .refused) ∧
        (session.completed = true ∨ session.verdict = .failed)) ∨
      (session.pause = (session, .again session.checkpoint) ∧
        session.completed = false ∧ session.verdict = .paused) ∨
      (session.pause =
          ({ session with verdict := .paused },
            .now session.checkpoint) ∧
        session.completed = false ∧ session.verdict = .running) := by
  rw [pause]
  cases completed : session.completed with
  | true => exact .inl ⟨rfl, .inl rfl⟩
  | false =>
      cases verdict : session.verdict with
      | running => exact .inr (.inr ⟨rfl, rfl, rfl⟩)
      | paused => exact .inr (.inl ⟨rfl, rfl, rfl⟩)
      | failed => exact .inl ⟨rfl, .inr rfl⟩

theorem Upload.session_pause (upload : Upload Content Phase) :
    upload.pause.1.session = upload.session.pause.1 ∧
      upload.pause.2.1 = upload.session.pause.2 := by
  rw [Upload.pause]
  split <;> simp_all

theorem Upload.session_wake (upload : Upload Content Phase)
    (number : PartNumber) :
    (upload.signal (.wakePart number)).session = upload.session := by
  show (if _ then _ else _ : Upload Content Phase).session =
    upload.session
  split <;> rfl

theorem Upload.session_hear (upload : Upload Content Phase)
    (signals : List Signal) :
    (upload.hear signals).session = upload.session.hear signals := by
  induction signals generalizing upload with
  | nil => rfl
  | cons first signals ih =>
      apply (ih _).trans
      cases first with
      | pause =>
          exact congrArg (Session.hear · signals)
            upload.session_pause.1
      | wakePart number =>
          exact congrArg (Session.hear · signals)
            (upload.session_wake number)
      | wakeDriver => rfl
      | note entry => rfl

/-- Hearing signals adds moments to a history, and all of them are pauses. -/
theorem Recorded.history_hear (recorded : Recorded World)
    (session : Session) (signals : List Signal) :
    ∃ pauses, (recorded.hear session signals).history =
        recorded.history ++ pauses ∧
      ∀ moment ∈ pauses, ∃ answer, moment.event = .paused answer := by
  induction signals generalizing recorded session with
  | nil =>
      exact ⟨[], (List.append_nil _).symm, fun _ member => by cases member⟩
  | cons first signals ih =>
      cases first with
      | pause =>
          obtain ⟨pauses, same, each⟩ :=
            ih (recorded.note session.pause.1 (.paused session.pause.2))
              session.pause.1
          refine ⟨⟨session.pause.1, .paused session.pause.2⟩ :: pauses,
            ?_, ?_⟩
          · rw [List.append_cons]
            exact same
          · intro moment member
            rcases List.mem_cons.mp member with rfl | later
            · exact ⟨session.pause.2, rfl⟩
            · exact each moment later
      | wakePart number => exact ih recorded session
      | wakeDriver => exact ih recorded session
      | note entry => exact ih recorded session

/-- A reply adds the event it was asked with, pauses, and its result. -/
theorem Recorded.history_witness {Outcome : Type}
    (recorded : Recorded World) (session : Session) (event : Event)
    (reply : Reply World Outcome) (result : Option Event) :
    ∃ pauses, (recorded.witness session event reply result).history =
        recorded.history ++ ⟨session, event⟩ :: pauses ++
          result.toList.map (⟨session.hear reply.signals, ·⟩) ∧
      ∀ moment ∈ pauses, ∃ answer, moment.event = .paused answer := by
  obtain ⟨pauses, same, each⟩ :=
    ({ recorded with world := reply.world }.note session
      event).history_hear session reply.signals
  refine ⟨pauses, ?_, each⟩
  rw [witness]
  cases result with
  | none =>
      rw [note?, same, note, List.append_assoc]
      exact (List.append_nil _).symm
  | some answer =>
      rw [note?, note, same, note, List.append_assoc recorded.history]
      rfl

/-- Writing down changes nothing else. -/
@[simp]
theorem Recorded.world_hear (recorded : Recorded World)
    (session : Session) (signals : List Signal) :
    (recorded.hear session signals).world = recorded.world := by
  induction signals generalizing recorded session with
  | nil => rfl
  | cons first signals ih =>
      cases first with
      | pause => exact ih _ _
      | wakePart number => exact ih _ _
      | wakeDriver => exact ih _ _
      | note entry => exact ih _ _

@[simp]
theorem Recorded.world_witness {Outcome : Type}
    (recorded : Recorded World) (session : Session) (event : Event)
    (reply : Reply World Outcome) (result : Option Event) :
    (recorded.witness session event reply result).world = reply.world := by
  rw [witness]
  cases result with
  | none => exact Recorded.world_hear _ _ _
  | some answer => exact Recorded.world_hear _ _ _

/-- A request that is polled changes the surroundings as it would anyway. -/
theorem Place.world_hear_poll (host : Host World Content Phase)
    (place : Place (Recorded World) Content (Marked Phase))
    (request : Request) (marked : Marked Phase) :
    (place.hear (host.recording.poll place.world place.upload.session
        request marked)).world.world =
      (host.poll place.world.world place.upload.session request
        marked.phase).world :=
  Recorded.world_witness _ _ _ _ _

/-- A request that has finished is answered at the last moment. -/
theorem Place.getLast?_hear_poll (host : Host World Content Phase)
    (place : Place (Recorded World) Content (Marked Phase))
    {request : Request} {marked : Marked Phase}
    {answer : Except Failure request.Answer}
    (answered :
      (host.recording.poll place.world place.upload.session request
        marked).outcome = .finished answer) :
    let heard := place.hear
      (host.recording.poll place.world place.upload.session request marked)
    heard.world.history.getLast? =
      some ⟨heard.upload.session, .answered request answer⟩ := by
  intro heard
  let raw :=
    host.poll place.world.world place.upload.session request marked.phase
  have finished : raw.outcome = .finished answer :=
    Response.eq_of_mark_eq_finished answered
  have history : heard.world.history =
      (place.world.witness place.upload.session (marked.event request) raw
        raw.outcome.event?).history := rfl
  have session : heard.upload.session =
      place.upload.session.hear raw.signals :=
    Upload.session_hear _ _
  rw [history, session, finished]
  exact List.getLast?_concat ..

namespace History

variable {allowed : History → Moment → Prop}

/-- The pauses in the middle of a poll may come if pauses may. -/
theorem always_hear {recorded : Recorded World}
    (always : Always allowed recorded.history)
    (pauses : ∀ before session answer,
      allowed before ⟨session, .paused answer⟩)
    (session : Session) (signals : List Signal) :
    Always allowed (recorded.hear session signals).history := by
  induction signals generalizing recorded session with
  | nil => exact always
  | cons first signals ih =>
      cases first with
      | pause => exact ih (always_concat always (pauses _ _ _)) _
      | wakePart number => exact ih always _
      | wakeDriver => exact ih always _
      | note entry => exact ih always _

/-- A reply may come if its event may come now and its result anytime. -/
theorem always_witness {Outcome : Type} {recorded : Recorded World}
    {session : Session} {event : Event} {reply : Reply World Outcome}
    {result : Option Event} (always : Always allowed recorded.history)
    (next : allowed recorded.history ⟨session, event⟩)
    (pauses : ∀ before session answer,
      allowed before ⟨session, .paused answer⟩)
    (results : ∀ before session answer, result = some answer →
      allowed before ⟨session, answer⟩) :
    Always allowed
      (recorded.witness session event reply result).history := by
  have heard := always_hear
    (always_concat always next :
      Always allowed
        ({ recorded with world := reply.world }.note
          session event).history)
    pauses session reply.signals
  cases result with
  | none => exact heard
  | some answer =>
      exact always_concat heard (results _ _ answer rfl)

end History

end Multipart
