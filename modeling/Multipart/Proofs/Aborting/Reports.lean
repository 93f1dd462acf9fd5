import Multipart.Proofs.Parking
import Multipart.Proofs.Upload.Measured

/-!
# What an upload is told of

A failure reaches an upload from its requests, from its source, or from the
length of what the source has given.  Which failure a moment tells of can be
read from the history alone, and so can the failure that an upload would be
aborted for at any time.  Here is what hearing a reply and polling the cutter
make of this; that nothing is overlooked in a poll is said by the main
statement, `Going.polled`.
-/

namespace Multipart

variable {World Content Phase : Type}

/-! ## Failures in a history -/

namespace Session

/-- The failure of content that goes on after every part was cut. -/
def overfull? (session : Session) (given : Nat) : Option Failure :=
  if session.nextPart =
        PartNumber.ofNat (session.plan.partCount.toNat + 1) ∧
      session.plan.total < given then
    some (.contentLength session.plan.contentLength (.ofNat given))
  else
    none

end Session

/-- How many bytes were drawn once those of an event are added. -/
def Event.count (event : Event) (given : Nat) : Nat :=
  if given + event.bytes.length < UInt64.size then
    given + event.bytes.length
  else
    given

theorem Event.count_of_dry {event : Event} (dry : event.bytes = [])
    (given : Nat) : event.count given = given := by
  rw [count, dry]
  exact ite_self _

theorem Event.length_draw (event : Event) (before : Bytes) :
    (event.draw before).length = event.count before.length := by
  rw [draw, count]
  split
  · exact List.length_append
  · rfl

namespace Moment

/-- The failure that a moment tells of, after so many bytes were drawn. -/
def report? (moment : Moment) (given : Nat) : Option Failure :=
  match moment.event with
  | .answered (.part _ _ _) (.error failure) => some failure
  | .answered (.complete _ _) (.error failure) => some failure
  | .drew (.error failure) => some failure
  | .drew (.ok _) => moment.session.overfull? (moment.event.count given)
  | .ended =>
    if given < moment.session.plan.total then
      some (.contentLength moment.session.plan.contentLength
        (.ofNat given))
    else
      none
  | _ => none

end Moment

namespace Event

/-- Holds when a request or the source is polled. -/
def isPoll : Event → Bool
  | .sent _ => true
  | .asked _ => true
  | .pulled => true
  | _ => false

/-- Holds when the upload begins to be aborted. -/
def aborts : Event → Bool
  | .sent (.abort _) => true
  | _ => false

/-- Holds of what may happen in a poll unless the upload is aborted. -/
def isMild : Event → Bool
  | .sent (.abort _) => false
  | .returned _ => false
  | _ => true

/-- A poll tells of no failure by itself. -/
theorem report?_of_isPoll {event : Event} (poll : event.isPoll = true)
    (session : Session) (given : Nat) :
    (⟨session, event⟩ : Moment).report? given = none := by
  cases event with
  | sent => rfl
  | asked => rfl
  | pulled => rfl
  | _ => cases poll

theorem bytes_of_isPoll {event : Event} (poll : event.isPoll = true) :
    event.bytes = [] := by
  cases event with
  | drew => cases poll
  | _ => rfl

theorem checkpoint?_of_isPoll {event : Event}
    (poll : event.isPoll = true) : event.checkpoint? = none := by
  cases event with
  | paused => cases poll
  | _ => rfl

theorem lands_of_isPoll {event : Event} (poll : event.isPoll = true) :
    event.lands = false := by
  cases event with
  | answered => cases poll
  | _ => rfl

end Event

namespace History

/-- How many bytes were drawn. -/
def given (history : History) : Nat :=
  (drawn history.events).length

/-- The failure that the last moment tells of. -/
def report? (history : History) : Option Failure :=
  history.getLast?.bind fun last => last.report? (given history.dropLast)

/-- The failure that an upload is aborted for, if it is aborted now. -/
def cause? (history : History) (session : Session) : Option Failure :=
  history.report?.or (session.overfull? history.given)

/-- Holds when an upload that is not paused has been told of no failure. -/
def Calm (history : History) : Prop :=
  ¬ history.Handed → history.report? = none

theorem report?_concat (history : History) (last : Moment) :
    report? (history ++ [last]) = last.report? history.given := by
  simp [report?]

theorem given_concat (history : History) (last : Moment) :
    given (history ++ [last]) = last.event.count history.given := by
  rw [given, events, List.map_append, List.map_singleton, drawn_concat]
  exact last.event.length_draw _

theorem length_drawn_facts (history : History) :
    (drawn history.facts).length = history.given :=
  congrArg List.length history.drawn_facts

end History

/-- How the next moment depends on those before it, up to an abort. -/
structure Easy (capacity : Option Nat) (before : History)
    (next : Moment) : Prop where
  /-- No failure is passed over unless the upload is paused. -/
  calm : before.Calm
  unaborted : next.event.aborts = false
  /-- Content that goes on too long has to wait only for room. -/
  patient : ∀ outcome, next.event = .returned outcome →
    ¬ before.Handed → next.session.overfull? before.given ≠ none →
    outcome = .pending ∧
      ∃ limit, capacity = some limit ∧ limit ≤ next.session.inFlight

/-- What has happened to an upload that goes on. -/
structure History.Eased (capacity : Option Nat) (history : History) :
    Prop where
  always : history.Always (Easy capacity)
  calm : history.Calm

namespace History.Eased

variable {capacity : Option Nat} {history : History}

/-- What may happen in a poll may happen next. -/
theorem mild (eased : history.Eased capacity) (session : Session)
    {event : Event} (mild : event.isMild = true) :
    Always (Easy capacity) (history ++ [⟨session, event⟩]) := by
  refine always_concat eased.always ⟨eased.calm, ?_, ?_⟩
  · cases event with
    | sent request =>
        cases request with
        | abort => cases mild
        | _ => rfl
    | _ => rfl
  · rintro outcome rfl
    cases mild

/-- What tells of no failure leaves a history eased. -/
theorem note (eased : history.Eased capacity) {session : Session}
    {event : Event} (mild : event.isMild = true)
    (silent :
      (⟨session, event⟩ : Moment).report? history.given = none) :
    Eased capacity (history ++ [⟨session, event⟩]) :=
  ⟨eased.mild session mild, fun _ => (report?_concat _ _).trans silent⟩

/-- The pauses in the middle of a poll tell of no failure. -/
theorem hear (recorded : Recorded World)
    (eased : recorded.history.Eased capacity) (session : Session)
    (signals : List Signal) :
    (recorded.hear session signals).history.Eased capacity := by
  induction signals generalizing recorded session with
  | nil => exact eased
  | cons first signals ih =>
      cases first with
      | pause =>
          exact ih
            (recorded.note session.pause.1 (.paused session.pause.2))
            (eased.note rfl rfl) session.pause.1
      | wakePart number => exact ih recorded eased session
      | wakeDriver => exact ih recorded eased session
      | note entry => exact ih recorded eased session

end History.Eased

/-- A pause in the middle of a poll draws nothing. -/
theorem Recorded.given_hear (recorded : Recorded World)
    (session : Session) (signals : List Signal) :
    (recorded.hear session signals).history.given =
      recorded.history.given := by
  rw [← History.length_drawn_facts, ← History.length_drawn_facts]
  exact congrArg (fun facts => (drawn facts).length)
    (recorded.facts_hear session signals)

/-! ## Uploads that are not aborted -/

/-- Hearing a reply does not fail an upload. -/
theorem Upload.Heard.judged {upload later : Upload Content Phase}
    (heard : Heard upload later)
    (judged : upload.session.verdict ≠ .failed) :
    later.session.verdict ≠ .failed := by
  cases heard with
  | moved => exact judged
  | paused => exact Verdict.noConfusion

/-- An upload that still runs after a reply has run before. -/
theorem Upload.Heard.running {upload later : Upload Content Phase}
    (heard : Heard upload later)
    (running : later.session.verdict = .running) :
    upload.session.verdict = .running := by
  cases heard with
  | moved => exact running
  | paused => cases running

/-- What is known of an upload, on any host, that is not aborted. -/
structure Unaborted (capacity : Option Nat)
    (place : Place (Recorded World) Content (Marked Phase)) : Prop where
  waits : place.upload.abort = none
  judged : place.upload.session.verdict ≠ .failed
  always : place.world.history.Always (Easy capacity)
  parks : place.world.history.Parks place.upload.session

/-- What is known of an upload that goes on. -/
structure Going (capacity : Option Nat)
    (place : Place (Recorded World) Content (Marked Phase)) : Prop
    extends Unaborted capacity place where
  calm : place.world.history.Calm

/-- What is known of an upload that has just been told of a failure. -/
structure Struck (capacity : Option Nat) (failure : Failure)
    (place : Place (Recorded World) Content (Marked Phase)) : Prop
    extends Unaborted capacity place where
  cause : ¬ place.world.history.Handed →
    place.world.history.cause? place.upload.session = some failure

namespace Unaborted

variable {capacity : Option Nat}
  {place : Place (Recorded World) Content (Marked Phase)}

/-- Of the upload only what it waits for and the verdict count. -/
theorem become (unaborted : Unaborted capacity place)
    {upload : Upload Content (Marked Phase)}
    (abort : upload.abort = place.upload.abort)
    (verdict : upload.session.verdict = place.upload.session.verdict) :
    Unaborted capacity (place.become upload) where
  waits := abort.trans unaborted.waits
  judged := by
    change upload.session.verdict ≠ .failed
    rw [verdict]
    exact unaborted.judged
  always := unaborted.always
  parks := by
    rw [History.Parks]
    change _ ↔ upload.session.verdict = .paused
    rw [verdict]
    exact unaborted.parks

/-- An upload that is told of a failure by the last moment is struck. -/
theorem struck (unaborted : Unaborted capacity place) {failure : Failure}
    (report : ¬ place.world.history.Handed →
      place.world.history.report? = some failure) :
    Struck capacity failure place :=
  { unaborted with
    cause := fun unhanded => by
      rw [History.cause?, report unhanded, Option.some_or] }

end Unaborted

namespace Going

variable {capacity : Option Nat}
  {place : Place (Recorded World) Content (Marked Phase)}

theorem become (going : Going capacity place)
    {upload : Upload Content (Marked Phase)}
    (abort : upload.abort = place.upload.abort)
    (verdict : upload.session.verdict = place.upload.session.verdict) :
    Going capacity (place.become upload) :=
  { going.toUnaborted.become abort verdict with calm := going.calm }

theorem eased (going : Going capacity place) :
    place.world.history.Eased capacity :=
  ⟨going.always, going.calm⟩

/-- Hearing a reply lets an upload go on, but for what the reply tells. -/
theorem witness {Outcome : Type} (going : Going capacity place)
    (event : Event) (reply : Reply World Outcome) (result : Option Event)
    (poll : event.isPoll = true) (asked : event.aborts = false)
    (answered : ∀ answer, result = some answer →
      answer.isMild = true ∧ answer.checkpoint? = none) :
    let after : Place (Recorded World) Content (Marked Phase) :=
      { world :=
          place.world.witness place.upload.session event reply result
        upload := place.upload.hear reply.signals }
    Unaborted capacity after ∧
      (¬ after.world.history.Handed →
        after.world.history.report? =
          result.bind fun answer =>
            (⟨after.upload.session, answer⟩ : Moment).report?
              place.world.history.given) := by
  intro after
  have heard : Upload.Heard place.upload after.upload :=
    Upload.heard_hear place.upload reply.signals
  have session :
      after.upload.session = place.upload.session.hear reply.signals :=
    Upload.session_hear place.upload reply.signals
  have parks : after.world.history.Parks after.upload.session := by
    rw [session]
    exact History.tells_parks.witness going.parks
      (Event.checkpoint?_of_isPoll poll) (Event.lands_of_isPoll poll)
      fun answer same => (answered answer same).2
  let started := { place.world with world := reply.world }.note
    place.upload.session event
  have mild : event.isMild = true := by
    cases event with
    | sent request =>
        cases request with
        | abort => cases asked
        | _ => rfl
    | returned => cases poll
    | _ => rfl
  have asking : started.history.Eased capacity :=
    going.eased.note mild (Event.report?_of_isPoll poll _ _)
  have eased :=
    asking.hear started place.upload.session reply.signals
  have given :
      (started.hear place.upload.session reply.signals).history.given =
        place.world.history.given := by
    rw [Recorded.given_hear]
    change History.given (place.world.history ++ [_]) = _
    rw [History.given_concat, Event.count_of_dry]
    exact Event.bytes_of_isPoll poll
  have waits := heard.abort.trans going.waits
  have judged := heard.judged going.judged
  cases result with
  | none => exact ⟨⟨waits, judged, eased.always, parks⟩, eased.calm⟩
  | some answer =>
      refine ⟨⟨waits, judged, eased.mild _ (answered answer rfl).1, parks⟩,
        fun _ => ?_⟩
      change History.report?
        ((started.hear place.upload.session reply.signals).history ++
          [_]) = _
      rw [History.report?_concat, given, session]
      rfl

variable {host : Host World Content Phase}

/-- A request other than the abort may be polled. -/
theorem hear_poll (going : Going capacity place)
    (host : Host World Content Phase) (request : Request)
    (marked : Marked Phase)
    (asked : (Event.sent request).aborts = false) :
    let reply :=
      host.recording.poll place.world place.upload.session request marked
    let heard := place.hear reply
    Unaborted capacity heard ∧
      (¬ heard.world.history.Handed →
        heard.world.history.report? =
          match reply.outcome with
          | .waiting _ => none
          | .finished answer =>
            (⟨heard.upload.session, .answered request answer⟩ :
              Moment).report? place.world.history.given
          | .panicked _ _ => none) := by
  intro reply heard
  let raw :=
    host.poll place.world.world place.upload.session request marked.phase
  have event :
      (marked.event request).isPoll = true ∧
        (marked.event request).aborts = false := by
    rw [Marked.event]
    split
    · exact ⟨rfl, rfl⟩
    · exact ⟨rfl, asked⟩
  have witnessed :=
    going.witness (marked.event request) raw raw.outcome.event? event.1
      event.2 fun answer seen => by
        obtain ⟨_, _, rfl⟩ :=
          Response.eq_of_mem_event (Option.mem_toList.mpr seen)
        exact ⟨rfl, rfl⟩
  refine ⟨witnessed.1, fun unhanded => (witnessed.2 unhanded).trans ?_⟩
  change _ = match raw.outcome.mark with
    | .waiting _ => _
    | .finished _ => _
    | .panicked _ _ => _
  cases raw.outcome <;> rfl

/-- A request that has not finished tells of nothing. -/
theorem waited (going : Going capacity place) {request : Request}
    {marked : Marked Phase} {response : Response (Marked Phase) request}
    (asked : (Event.sent request).aborts = false)
    (answer :
      (host.recording.poll place.world place.upload.session request
        marked).outcome = response)
    (unfinished : ∀ result, response ≠ .finished result) :
    Going capacity
      (place.hear (host.recording.poll place.world place.upload.session
        request marked)) := by
  have heard := going.hear_poll host request marked asked
  dsimp only at heard
  rw [answer] at heard
  refine { heard.1 with calm := fun unhanded => ?_ }
  rw [heard.2 unhanded]
  cases response with
  | waiting => rfl
  | finished result => exact absurd rfl (unfinished result)
  | panicked => rfl

end Going

/-! ## Polling the cutter -/

/-- A session that numbers the parts a cutter cuts. -/
structure Session.Paces (session : Session) (cutter : Cutter Content) :
    Prop where
  next : session.nextPart = PartNumber.ofNat (cutter.emitted + 1)
  plan : session.plan = cutter.plan

namespace Session.Paces

variable {session : Session} {cutter : Cutter Content}

/-- Too much was drawn when bytes are held after the last part. -/
theorem overfull?_eq (paces : session.Paces cutter) {given : Nat}
    (gauge : cutter.Gauge given) :
    session.overfull? given =
      if cutter.isComplete = true ∧ cutter.held ≠ [] then
        some cutter.wrongLength
      else
        none := by
  have small := cutter.plan.partCount_lt
  have numbered :=
    PartNumber.ofNat_succ_inj (cutter.emitted_le.trans_lt small) small
  simp only [overfull?, paces.next, paces.plan, numbered]
  by_cases complete : cutter.isComplete = true
  · have last := of_decide_eq_true complete
    have measured := gauge.measured
    rw [last] at measured
    have beyond : cutter.plan.total < given ↔ cutter.held ≠ [] := by
      rw [measured, ← List.length_pos_iff]
      exact Nat.lt_add_right_iff_pos
    have counted : UInt64.ofNat given = cutter.received := by
      rw [← gauge.received, UInt64.ofNat_toNat]
    simp only [complete, last, beyond, counted, Cutter.wrongLength]
  · have going := of_decide_eq_false (Bool.eq_false_iff.mpr complete)
    rw [if_neg (going ·.1), if_neg (complete ·.1)]

/-- Nothing beyond the last part was drawn when a buffer is needed. -/
theorem overfull?_of_needs (paces : session.Paces cutter) {given : Nat}
    {beginning : Bytes} (gauge : cutter.Gauge given)
    (needs : cutter.demand = .input beginning) :
    session.overfull? given = none := by
  rw [paces.overfull?_eq gauge]
  refine if_neg fun beyond => beyond.2 ?_
  rw [(Cutter.held_of_demand_eq_input gauge.tidy needs).1]
  exact Cutter.held_of_isComplete gauge.tidy beyond.1 needs

theorem heard (paces : session.Paces cutter)
    {upload later : Upload Content Phase} (heard : Upload.Heard upload later)
    (same : upload.session = session) : later.session.Paces cutter := by
  rw [heard.session, same]
  exact ⟨paces.next, paces.plan⟩

end Session.Paces

/-- What is known while the cutter of an upload that goes on is polled. -/
structure Drawing (capacity : Option Nat)
    (place : Place (Recorded World) Content (Marked Phase))
    (cutter : Cutter Content) : Prop where
  going : Going capacity place
  gauge : cutter.Gauge (drawn place.world.facts).length
  paces : place.upload.session.Paces cutter

/-- What is known of an upload that goes on, and has not drawn too much. -/
structure Fitting (capacity : Option Nat)
    (place : Place (Recorded World) Content (Marked Phase)) : Prop
    extends Going capacity place where
  fits :
    place.upload.session.overfull? place.world.history.given = none

/-- What polling the cutter makes of an upload. -/
def Cutter.Outcome.Leaves (capacity : Option Nat)
    (place : Place (Recorded World) Content (Marked Phase)) :
    Outcome → Prop
  | .failed failure => Struck capacity failure place
  | .pending => Fitting capacity place
  | .broken _ => Fitting capacity place
  | .part _ => Going capacity place
  | .ended => Going capacity place

namespace Drawing

variable {host : Host World Content Phase} {capacity : Option Nat}
  {place after : Place (Recorded World) Content (Marked Phase)}
  {cutter : Cutter Content}

theorem pulled (drawing : Drawing capacity place cutter)
    {pull : Pull host.size cutter.content}
    (gives :
      host.recording.source.pull place cutter.content = (after, pull)) :
    Unaborted capacity after ∧ after.upload.session.Paces cutter ∧
      (¬ after.world.history.Handed →
        after.world.history.report? =
          pull.event?.bind fun answer =>
            (⟨after.upload.session, answer⟩ : Moment).report?
              (drawn place.world.facts).length) := by
  let reply :=
    host.pull place.world.world place.upload.session cutter.content
  have witnessed :=
    drawing.going.witness .pulled reply reply.outcome.event? rfl rfl
      fun answer seen => by
        rcases Pull.eq_of_mem_event (Option.mem_toList.mpr seen) with
          rfl | ⟨buffer, rfl⟩ <;> exact ⟨rfl, rfl⟩
  obtain ⟨rfl, rfl⟩ := Prod.mk.inj gives
  rw [Recorded.facts, History.length_drawn_facts]
  exact ⟨witnessed.1, drawing.paces.heard (Upload.heard_hear _ _) rfl,
    witnessed.2⟩

/-- A buffer that is counted tells of a failure beyond the last part. -/
theorem drew (drawing : Drawing capacity place cutter)
    {beginning buffer : Bytes} {content : Content}
    {smaller : host.size content < host.size cutter.content}
    (needs : cutter.demand = .input beginning)
    (gives :
      host.recording.source.pull place cutter.content =
        (after, .item (.ok buffer) content smaller))
    {received : UInt64}
    (counted : Word.add cutter.received buffer.length = .ok received) :
    let filled := cutter.fill beginning buffer content received
    Unaborted capacity after ∧
      filled.Gauge (drawn after.world.facts).length ∧
      after.upload.session.Paces filled ∧
      (¬ after.world.history.Handed →
        after.world.history.report? =
          if cutter.isComplete = true ∧ buffer ≠ [] then
            some filled.wrongLength
          else
            none) := by
  intro filled
  have pulled := drawing.pulled gives
  have total :
      drawn after.world.facts = drawn place.world.facts ++ buffer := by
    rw [facts_of_pull host gives]
    exact drawn_drew_of_counted drawing.gauge.received counted
  have gauge : filled.Gauge (drawn after.world.facts).length := by
    rw [total, List.length_append]
    exact drawing.gauge.fill needs content counted
  have paces : after.upload.session.Paces filled :=
    ⟨pulled.2.1.next, pulled.2.1.plan⟩
  refine ⟨pulled.1, gauge, paces, fun unhanded => ?_⟩
  have held : cutter.isComplete = true → filled.held = buffer := by
    intro complete
    change beginning ++ buffer = buffer
    rw [Cutter.held_of_isComplete drawing.gauge.tidy complete needs]
    rfl
  have count : (Event.drew (.ok buffer)).count
      (drawn place.world.facts).length =
        (drawn after.world.facts).length := by
    rw [← Event.length_draw, ← drawn_concat, facts_of_pull host gives]
    rfl
  rw [pulled.2.2 unhanded]
  change after.upload.session.overfull? (Event.count _ _) = _
  rw [count, paces.overfull?_eq gauge]
  change (if cutter.isComplete = true ∧ filled.held ≠ [] then _ else _) = _
  by_cases complete : cutter.isComplete = true
  · rw [held complete]
  · rw [if_neg (complete ·.1), if_neg (complete ·.1)]

/-- A buffer that is needed tells of nothing. -/
theorem fill (host : Host World Content Phase)
    (drawing : Drawing capacity place cutter)
    {beginning buffer : Bytes} {content : Content}
    {smaller : host.size content < host.size cutter.content}
    (needs : cutter.demand = .input beginning)
    (gives :
      host.recording.source.pull place cutter.content =
        (after, .item (.ok buffer) content smaller))
    {received : UInt64}
    (counted : Word.add cutter.received buffer.length = .ok received)
    (within : cutter.isComplete = true → buffer = []) :
    Drawing capacity after
      (cutter.fill beginning buffer content received) := by
  have drew := drawing.drew needs gives counted
  refine ⟨{ drew.1 with calm := fun unhanded => ?_ }, drew.2.1,
    drew.2.2.1⟩
  rw [drew.2.2.2 unhanded]
  exact if_neg fun beyond => beyond.2 (within beyond.1)

/-- A cutter that goes on without a buffer leaves nothing to be told of. -/
theorem fitting (drawing : Drawing capacity place cutter)
    {beginning : Bytes} (needs : cutter.demand = .input beginning)
    (unaborted : Unaborted capacity after)
    (paces : after.upload.session.Paces cutter)
    (silent : ¬ after.world.history.Handed →
      after.world.history.report? = none)
    (same : drawn after.world.facts = drawn place.world.facts) :
    Fitting capacity after where
  toUnaborted := unaborted
  calm := silent
  fits := by
    rw [← History.length_drawn_facts]
    rw [show drawn after.world.history.facts = _ from same]
    exact paces.overfull?_of_needs drawing.gauge needs

/-- What the last look of a poll tells of. -/
theorem look (drawing : Drawing capacity place cutter)
    {later : Cutter Content} {outcome : Cutter.Outcome}
    (look :
      Cutter.Look host.recording.source place cutter after later
        (some outcome)) :
    outcome.Leaves capacity after := by
  have gauge := drawing.gauge
  cases look with
  | cuts holds => exact drawing.going
  | exceeds holds =>
      refine { drawing.going with cause := fun unhanded => ?_ }
      have excess := Cutter.held_of_demand_eq_excess holds
      rw [History.cause?, drawing.going.calm unhanded, Option.none_or,
        ← History.length_drawn_facts]
      exact (drawing.paces.overfull?_eq gauge).trans (if_pos excess)
  | jams jammed =>
      refine { drawing.going with fits := ?_ }
      rw [← History.length_drawn_facts]
      refine (drawing.paces.overfull?_eq gauge).trans (if_neg ?_)
      rintro ⟨complete, -⟩
      rw [Cutter.demand, complete] at jammed
      grind
  | waits needs gives =>
      have pulled := drawing.pulled gives
      refine drawing.fitting needs pulled.1 pulled.2.1 pulled.2.2 ?_
      rw [facts_of_pull host gives]
      exact congrArg drawn (List.append_nil _)
  | ends needs gives complete =>
      have pulled := drawing.pulled gives
      have total := gauge.eq_total needs complete
      refine { pulled.1 with calm := fun unhanded => ?_ }
      rw [pulled.2.2 unhanded]
      change (if _ < Plan.total _ then _ else _) = _
      rw [pulled.2.1.plan, total, if_neg (Nat.lt_irrefl _)]
  | lacks needs gives incomplete =>
      have pulled := drawing.pulled gives
      have short := gauge.lt_total needs incomplete
      refine pulled.1.struck fun unhanded => ?_
      rw [pulled.2.2 unhanded]
      change (if _ < Plan.total _ then some (Failure.contentLength _ _)
        else _) = _
      rw [pulled.2.1.plan, if_pos short, Cutter.wrongLength,
        ← gauge.received, UInt64.ofNat_toNat]
  | breaks needs gives =>
      have pulled := drawing.pulled gives
      exact pulled.1.struck pulled.2.2
  | @bursts _ _ buffer _ _ _ needs gives uncounted =>
      have pulled := drawing.pulled gives
      have same :
          drawn after.world.facts = drawn place.world.facts := by
        rw [facts_of_pull host gives]
        exact drawn_drew_of_uncounted gauge.received uncounted
      have count : (Event.drew (.ok buffer)).count
          (drawn place.world.facts).length =
            (drawn place.world.facts).length := by
        rw [← Event.length_draw, ← drawn_concat]
        exact congrArg List.length
          (drawn_drew_of_uncounted gauge.received uncounted)
      refine drawing.fitting needs pulled.1 pulled.2.1
        (fun unhanded => (pulled.2.2 unhanded).trans ?_) same
      change after.upload.session.overfull? (Event.count _ _) = _
      rw [count]
      exact pulled.2.1.overfull?_of_needs gauge needs
  | overflows needs gives counted complete some =>
      have drew := drawing.drew needs gives counted
      refine drew.1.struck fun unhanded => ?_
      rw [drew.2.2.2 unhanded, if_pos ⟨complete, some⟩]

end Drawing

/-- Polling the cutter overlooks no failure, and makes none up. -/
theorem Going.polled {target : Target} {plan : Plan}
    {existing : PartTable Receipt} {host : Host World Content Phase}
    {capacity : Option Nat}
    {place after : Place (Recorded World) Content (Marked Phase)}
    {cutter : Cutter Content} {outcome : Cutter.Outcome}
    (going : Going capacity place)
    (regular : Regular target plan existing place)
    (unresolved : place.upload.resolved = false)
    (may : place.upload.MayCut)
    (polled :
      place.upload.cutter.poll host.recording.source place =
        (after, cutter, outcome)) :
    outcome.Leaves capacity after := by
  have unfinished := regular.sound.unfinished unresolved may
  obtain ⟨middle, filled, drawing, look⟩ :=
    Cutter.poll_keeps (Drawing capacity)
      (fun drawing needs gives counted within =>
        drawing.fill host needs gives counted within)
      unfinished
      { going
        gauge := (regular.measured.gauged unfinished).toGauge
        paces :=
          ⟨regular.sound.next,
            regular.sound.planned.trans regular.sound.follows.symm⟩ }
  rw [polled] at look
  exact drawing.look look

end Multipart
