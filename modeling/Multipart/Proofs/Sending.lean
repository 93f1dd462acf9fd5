import Multipart.Proofs.Carrying
import Multipart.Proofs.Completing
import Multipart.Proofs.Upload.Measured
import Multipart.Uploader

/-!
# Parts that are sent once

The session numbers the parts that the cutter cuts, and neither knows of the
other.  Since both go on by one at a time, over parts that are passed over as
well, each number goes with its own place of the content and is asked for
once at most.  The main statement, `sent_once`, is about every host and every
run, whatever receipts the upload was given.
-/

namespace Multipart

variable {World Content Phase : Type} {target : Target} {plan : Plan}
  {existing : PartTable Receipt}

/-! ## The parts that were asked for -/

/-- The part that is asked for when a request is sent, if it is for one. -/
def Event.requested? : Event → Option PartNumber
  | .sent (.part _ number _) => some number
  | _ => none

/-- The parts that were asked for, in the order of their requests. -/
def requested (events : List Event) : List PartNumber :=
  events.filterMap Event.requested?

@[simp]
theorem requested_append (left right : List Event) :
    requested (left ++ right) = requested left ++ requested right :=
  List.filterMap_append

theorem mem_requested {events : List Event} {number : PartNumber} :
    number ∈ requested events ↔
      ∃ aim body, .sent (.part aim number body) ∈ events := by
  rw [requested, List.mem_filterMap]
  constructor
  · rintro ⟨event, member, asked⟩
    unfold Event.requested? at asked
    split at asked
    · obtain rfl := Option.some.inj asked
      exact ⟨_, _, member⟩
    · cases asked
  · rintro ⟨aim, body, member⟩
    exact ⟨_, member, rfl⟩

/-- What asks for a part is a fact. -/
theorem History.requested_facts (history : History) :
    requested history.facts = requested history.events := by
  rw [facts, requested, requested, List.filterMap_filter]
  refine List.filterMap_congr fun event _ => ?_
  cases event <;> rfl

/-- A request of another kind asks for no part. -/
theorem Marked.requested_facts (marked : Marked Phase) {request : Request}
    (other : (Event.sent request).requested? = none) :
    requested (marked.facts request) = [] := by
  rw [facts]
  split
  · rfl
  · exact List.filterMap_cons_none other

/-- A part is asked for when its request is polled for the first time. -/
theorem Marked.requested_part (marked : Marked Phase) (aim : Target)
    (number : PartNumber) (body : Bytes) :
    requested (marked.facts (.part aim number body)) =
      if marked.begun then [] else [number] := by
  rw [facts]
  split <;> rfl

theorem Response.requested_event {request : Request}
    (response : Response Phase request) :
    requested response.event?.toList = [] := by
  cases response <;> rfl

/-- What the source gives asks for no part. -/
theorem requested_given {given : List Event}
    (each : ∀ event ∈ given,
      event = .ended ∨ ∃ buffer, event = .drew buffer) :
    requested given = [] := by
  refine List.filterMap_eq_nil_iff.mpr fun event member => ?_
  rcases each event member with rfl | ⟨buffer, rfl⟩ <;> rfl

/-- Whatever an upload hears, its requests stand as they stood. -/
theorem Upload.Heard.phases {upload later : Upload Content Phase}
    (heard : Heard upload later) :
    ∀ flight ∈ later.pool.flights, ∃ old ∈ upload.pool.flights,
      old.number = flight.number ∧ old.phase = flight.phase := by
  intro flight member
  cases heard with
  | moved pool same => exact ⟨flight, same.mem_iff.mp member, rfl, rfl⟩
  | paused pool running unfinished same =>
      rcases List.mem_map.mp (same.mem_iff.mp member) with ⟨old, mem, rfl⟩
      exact ⟨old, mem, rfl, rfl⟩

/-! ## What an upload has asked for -/

/-- How the parts that were asked for go with those that were cut. -/
structure Sends (existing : PartTable Receipt)
    (upload : Upload Content (Marked Phase)) (facts : List Event) :
    Prop where
  once : (requested facts).Nodup
  cut : ∀ number ∈ requested facts,
    number.toNat ≤ upload.cutter.emitted
  /-- A request that waits has been sent if it was polled before. -/
  begun : ∀ flight ∈ upload.pool.flights,
    flight.number ∈ requested facts ↔ flight.phase.begun = true
  /-- A part that was cut is asked for, unless the upload had it. -/
  covered : upload.IsGoing → ∀ number, 1 ≤ number.toNat →
    number.toNat ≤ upload.cutter.emitted →
      existing.find? number = none →
        number ∈ upload.pool.numbers ∨ number ∈ requested facts

namespace Sends

variable {upload later : Upload Content (Marked Phase)} {facts : List Event}

/-- Requests may be taken away once nothing more is to be asked for. -/
theorem reduce (sends : Sends existing upload facts)
    (emitted : later.cutter.emitted = upload.cutter.emitted)
    (flights : ∀ flight ∈ later.pool.flights,
      ∃ old ∈ upload.pool.flights,
        old.number = flight.number ∧ old.phase = flight.phase)
    (going : later.IsGoing → upload.IsGoing ∧
      ∀ number ∈ upload.pool.numbers, number ∈ later.pool.numbers) :
    Sends existing later facts where
  once := sends.once
  cut := by
    rw [emitted]
    exact sends.cut
  begun flight member := by
    rcases flights flight member with ⟨old, mem, number, phase⟩
    rw [← number, ← phase]
    exact sends.begun old mem
  covered still number positive within absent := by
    rcases going still with ⟨before, stays⟩
    rw [emitted] at within
    exact (sends.covered before number positive within absent).imp_left
      (stays number)

theorem heard (sends : Sends existing upload facts)
    (heard : Upload.Heard upload later) : Sends existing later facts := by
  refine sends.reduce (by rw [heard.cutter]) heard.phases fun going => ?_
  exact ⟨(heard.moved_of_isGoing going).1,
    fun number => heard.numbers.mem_iff.mpr⟩

/-- An upload may change otherwise, as long as it goes on no more. -/
theorem stop (sends : Sends existing upload facts)
    (emitted : later.cutter.emitted = upload.cutter.emitted)
    (none : later.pool.flights = []) (stops : ¬ later.IsGoing) :
    Sends existing later facts := by
  refine sends.reduce emitted ?_ fun going => absurd going stops
  intro flight member
  rw [none] at member
  cases member

/-- Only the cutter, the requests and the verdict count. -/
theorem congr (sends : Sends existing upload facts)
    (cutter : later.cutter = upload.cutter)
    (pool : later.pool = upload.pool)
    (verdict : later.session.verdict = upload.session.verdict)
    (resolved : later.resolved = upload.resolved) :
    Sends existing later facts := by
  refine sends.reduce (by rw [cutter]) ?_ fun going => ⟨?_, ?_⟩
  · intro flight member
    rw [pool] at member
    exact ⟨flight, member, rfl, rfl⟩
  · exact ⟨verdict.symm.trans going.running,
      resolved.symm.trans going.unresolved⟩
  · intro number member
    rw [pool]
    exact member

/-- Facts may be added that ask for no part. -/
theorem add (sends : Sends existing upload facts) {events : List Event}
    (none : requested events = []) :
    Sends existing upload (facts ++ events) := by
  have same : requested (facts ++ events) = requested facts := by
    rw [requested_append, none, List.append_nil]
  constructor
  · rw [same]
    exact sends.once
  · rw [same]
    exact sends.cut
  · rw [same]
    exact sends.begun
  · rw [same]
    exact sends.covered

/--
A part request may be polled.  Whether it is kept, with a state of a request
that was sent, or goes, the other requests stay as they are.
-/
theorem ask (sends : Sends existing upload facts)
    (sound : upload.Sound target plan existing)
    {flight : Flight (Marked Phase)} (flying : flight ∈ upload.pool.flights)
    (aim : Target) {polled : Upload Content (Marked Phase)}
    (heard : Upload.Heard upload polled)
    (cutter : later.cutter = polled.cutter)
    (flights : ∀ other ∈ later.pool.flights,
      (other.number = flight.number ∧ other.phase.begun = true) ∨
        other.number ≠ flight.number ∧ ∃ old ∈ polled.pool.flights,
          old.number = other.number ∧ old.phase = other.phase)
    (going : later.IsGoing → polled.IsGoing ∧
      ∀ number ∈ polled.pool.numbers, number ≠ flight.number →
        number ∈ later.pool.numbers) :
    Sends existing later
      (facts ++
        flight.phase.facts (.part aim flight.number flight.body)) := by
  have asked : flight.number ∈ requested
      (facts ++
        flight.phase.facts (.part aim flight.number flight.body)) := by
    rw [requested_append, Marked.requested_part, List.mem_append]
    split
    · rename_i begun
      exact .inl ((sends.begun flight flying).mpr begun)
    · exact .inr (List.mem_singleton.mpr rfl)
  have others {number : PartNumber} (member : number ∈ requested
      (facts ++
        flight.phase.facts (.part aim flight.number flight.body))) :
      number ∈ requested facts ∨ number = flight.number := by
    rw [requested_append] at member
    refine (List.mem_append.mp member).imp_right fun new => ?_
    obtain ⟨_, _, sent⟩ := mem_requested.mp new
    cases Marked.eq_of_mem_facts sent
    rfl
  constructor
  · rw [requested_append, Marked.requested_part]
    split
    · rw [List.append_nil]
      exact sends.once
    · rename_i unsent
      rw [← List.concat_eq_append, List.nodup_concat]
      exact ⟨mt (sends.begun flight flying).mp unsent, sends.once⟩
  · intro number member
    rw [cutter, heard.cutter]
    rcases others member with old | rfl
    · exact sends.cut number old
    · exact (sound.sent flight flying).2.1
  · intro other member
    rcases flights other member with
      ⟨same, begun⟩ | ⟨differs, middle, mem, number, phase⟩
    · rw [same, begun]
      exact iff_of_true asked rfl
    · obtain ⟨old, flew, oldNumber, oldPhase⟩ := heard.phases middle mem
      rw [← phase, ← oldPhase, ← sends.begun old flew, oldNumber, number]
      refine ⟨fun mem => (others mem).resolve_right differs, fun mem => ?_⟩
      rw [requested_append]
      exact List.mem_append_left _ mem
  · intro still number positive within absent
    rcases going still with ⟨middle, stays⟩
    rw [cutter, heard.cutter] at within
    by_cases same : number = flight.number
    · rw [same]
      exact .inr asked
    · refine (sends.covered (heard.moved_of_isGoing middle).1 number
        positive within absent).imp (fun mem => ?_) fun mem => ?_
      · exact stays number (heard.numbers.mem_iff.mpr mem) same
      · rw [requested_append]
        exact List.mem_append_left _ mem

/-- A part that was cut is to be asked for, or was there before. -/
theorem sendPart (host : Host World Content Phase)
    (sends : Sends existing upload facts)
    (sound : upload.Sound target plan existing)
    {cutter : Cutter Content} (body : Bytes)
    (follows : cutter.plan = upload.cutter.plan)
    (emitted : cutter.emitted = upload.cutter.emitted + 1) :
    Sends existing ({ upload with cutter }.sendPart host.recording body)
      facts := by
  have next := sound.next_toNat follows emitted
  have cut : ∀ number ∈ requested facts, number.toNat ≤ cutter.emitted :=
    fun number member => by
      have below := sends.cut number member
      omega
  have earlier {number : PartNumber} (within : number.toNat ≤ cutter.emitted)
      (differs : number ≠ upload.session.nextPart) :
      number.toNat ≤ upload.cutter.emitted := by
    have away := mt PartNumber.toNat_inj.mp differs
    omega
  rw [Upload.sendPart]
  dsimp only
  split
  · rename_i had
    refine ⟨sends.once, cut, sends.begun, ?_⟩
    intro going number positive within absent
    by_cases latest : number = upload.session.nextPart
    · rw [PartTable.contains, sound.existed, ← latest, absent] at had
      cases had
    · exact sends.covered ⟨going.running, going.unresolved⟩ number positive
        (earlier within latest) absent
  · have flights := Pool.flights_push upload.pool
      ({ upload with cutter }.nextFlight host.recording body)
    refine ⟨sends.once, cut, ?_, ?_⟩
    · intro flight member
      rcases List.mem_cons.mp (flights.mem_iff.mp member) with rfl | old
      · refine iff_of_false (fun asked => ?_) Bool.false_ne_true
        have below : upload.session.nextPart.toNat ≤ _ :=
          sends.cut _ asked
        omega
      · exact sends.begun flight old
    · intro going number positive within absent
      by_cases latest : number = upload.session.nextPart
      · left
        rw [latest]
        exact (flights.map (·.number)).mem_iff.mpr List.mem_cons_self
      · refine (sends.covered ⟨going.running, going.unresolved⟩ number
          positive (earlier within latest) absent).imp_left fun old => ?_
        exact (flights.map (·.number)).mem_iff.mpr
          (List.mem_cons_of_mem _ old)

section Steps

variable {host : Host World Content Phase}
  {place : Place (Recorded World) Content (Marked Phase)}

/-- A request that is for no part may be polled. -/
theorem hear (host : Host World Content Phase)
    (sends : Sends existing place.upload place.world.facts)
    (request : Request) (marked : Marked Phase)
    (other : (Event.sent request).requested? = none) :
    let after := place.hear
      (host.recording.poll place.world place.upload.session request marked)
    Sends existing after.upload after.world.facts := by
  intro after
  have facts := facts_poll host place request marked
  rw [List.append_assoc] at facts
  change after.world.facts = _ at facts
  rw [facts]
  refine Sends.heard (sends.add ?_) (Upload.heard_hear _ _)
  rw [requested_append, marked.requested_facts other,
    Response.requested_event]
  rfl

/-- What the source gives may be taken in by the cutter. -/
theorem take (sends : Sends existing place.upload place.world.facts)
    {after : Place (Recorded World) Content (Marked Phase)}
    {cutter : Cutter Content} {outcome : Cutter.Outcome}
    (polled :
      place.upload.cutter.poll host.recording.source place =
        (after, cutter, outcome)) :
    Sends existing after.upload after.world.facts := by
  rcases facts_polled polled with ⟨given, facts, each⟩
  rw [facts]
  exact (sends.add (requested_given each)).heard
    (Cutter.polled host.recording polled).heard

/-- A request that has resolved is gone. -/
theorem gone (sends : Sends existing place.upload place.world.facts)
    (sound : place.upload.Sound target plan existing)
    {flight : Flight (Marked Phase)}
    (flying : flight ∈ place.upload.pool.flights)
    {polled later : Upload Content (Marked Phase)}
    (heard : Upload.Heard place.upload polled)
    (cutter : later.cutter = polled.cutter)
    (pool : later.pool = polled.pool.remove flight.number)
    (going : later.IsGoing → polled.IsGoing) :
    Sends existing later (Accounted.partFacts place flight) := by
  apply sends.ask sound flying _ heard cutter
  · intro other member
    rw [pool, Pool.flights_remove] at member
    rcases List.mem_filter.mp member with ⟨flew, differs⟩
    exact .inr ⟨of_decide_eq_true differs, other, flew, rfl, rfl⟩
  · refine fun still => ⟨going still, fun number member differs => ?_⟩
    rcases List.mem_map.mp member with ⟨other, flew, rfl⟩
    rw [pool, Pool.numbers, Pool.flights_remove]
    exact List.mem_map_of_mem
      (List.mem_filter.mpr ⟨flew, decide_eq_true differs⟩)

/-- Every step asks for parts once at most. -/
theorem step (sends : Sends existing place.upload place.world.facts)
    (sound : place.upload.Sound target plan existing)
    {later : Place (Recorded World) Content (Marked Phase)}
    {outcome : Option Outcome}
    (step : Step host.recording place later outcome) :
    Sends existing later.upload later.world.facts := by
  have resolves (upload : Upload Content (Marked Phase)) :
      ¬ upload.resolve.IsGoing := fun going =>
    Bool.noConfusion going.unresolved
  have failed (upload : Upload Content (Marked Phase)) (failure : Failure) :
      ¬ (upload.fail host.recording failure).1.IsGoing :=
    Upload.not_isGoing_fail host.recording
  cases step with
  | withdrawn opened front cancelled =>
      refine sends.reduce rfl ?_ fun going => ?_
      · intro flight member
        change flight ∈ (place.upload.pool.remove _).flights at member
        rw [Pool.flights_remove] at member
        exact ⟨flight, (List.mem_filter.mp member).1, rfl, rfl⟩
      · exact absurd going.running (sound.cancelled _
          (Pool.mem_flights_of_front front) cancelled)
  | @waiting flight queued phase opened front wanted answer =>
      have flying := Pool.mem_flights_of_front front
      have heard := Upload.heard_heardPart host.recording front
      have begun := (Response.eq_of_mark_eq_waiting answer).2
      rw [Place.world_become, Accounted.facts_of_waiting _ answer]
      refine sends.ask sound flying _ heard rfl ?_ ?_
      · intro other member
        change other ∈ (Pool.setPhase _ _ _).flights at member
        rw [Pool.flights_setPhase] at member
        rcases List.mem_map.mp member with ⟨old, flew, rfl⟩
        rw [Pool.number_setFlight, Pool.setFlight]
        split
        · rename_i same
          exact .inl ⟨same, begun⟩
        · rename_i differs
          exact .inr ⟨differs, old, flew, rfl, rfl⟩
      · intro going
        refine ⟨⟨going.running, going.unresolved⟩, fun number member _ => ?_⟩
        change number ∈ (Pool.setPhase _ _ _).numbers
        rwa [Pool.numbers_setPhase]
  | @recalled flight queued phase opened front wanted answer cancelled =>
      have flying := Pool.mem_flights_of_front front
      have heard := Upload.heard_heardPart host.recording front
      rw [Place.world_become, Accounted.facts_of_waiting _ answer]
      refine sends.ask sound flying _ heard rfl ?_ fun going => ?_
      · intro other member
        change other ∈ ((Pool.setPhase _ _ _).remove _).flights at member
        rw [Pool.flights_remove, Pool.flights_setPhase] at member
        rcases List.mem_filter.mp member with ⟨kept, differs⟩
        rcases List.mem_map.mp kept with ⟨old, flew, rfl⟩
        have differs := of_decide_eq_true differs
        rw [Pool.number_setFlight] at differs
        rw [Pool.setFlight, if_neg differs]
        exact .inr ⟨differs, old, flew, rfl, rfl⟩
      · rcases cancelled with ⟨other, member, _, flagged⟩
        exact absurd going.running
          ((sound.heard heard).cancelled other member flagged)
  | received opened front wanted answer =>
      rw [Place.world_become, Accounted.facts_of_finished _ answer]
      refine Sends.add ?_ ?_
      · refine sends.gone sound (Pool.mem_flights_of_front front)
          (Upload.heard_heardPart host.recording front) rfl rfl ?_
        exact fun going => ⟨going.running, going.unresolved⟩
      · rfl
  | @refused flight queued failure settled opened front wanted answer left =>
      rw [Place.world_become, Accounted.facts_of_finished _ answer]
      have gone : Sends existing settled
          (Accounted.partFacts place flight) := by
        subst left
        refine sends.gone sound (Pool.mem_flights_of_front front)
          (Upload.heard_heardPart host.recording front) rfl rfl ?_
        exact fun going => ⟨going.running, going.unresolved⟩
      exact (gone.add rfl).stop (congrArg _ (Upload.cutter_fail ..))
        (Upload.flights_fail _) (failed _ _)
  | resting => exact sends
  | starved may polled | exhausted may polled | snapped may polled =>
      have cut := Cutter.polled host.recording polled
      refine (sends.take polled).reduce cut.emitted ?_ ?_
      · exact fun flight member => ⟨flight, member, rfl, rfl⟩
      · exact fun going => ⟨⟨going.running, going.unresolved⟩, fun _ => id⟩
  | cut may polled =>
      have cut := Cutter.polled host.recording polled
      exact (sends.take polled).sendPart host (sound.heard cut.heard) _
        cut.follows cut.emitted
  | spoiled may polled =>
      have cut := Cutter.polled host.recording polled
      refine (sends.take polled).stop ?_ (Upload.flights_fail _) (failed _ _)
      rw [Place.become, Upload.cutter_fail]
      exact cut.emitted
  | closes => exact sends.congr rfl rfl rfl rfl
  | stumbles => exact sends.congr rfl rfl rfl rfl
  | parks => exact sends.stop rfl rfl (resolves _)
  | unclosed => exact sends.stop rfl rfl (resolves _)
  | closing =>
      exact (sends.hear host (.complete _ _) _ rfl).congr rfl rfl rfl rfl
  | reopened | completes =>
      exact (sends.hear host (.complete _ _) _ rfl).stop rfl rfl (resolves _)
  | rejected unaborted closed wanted answer left =>
      subst left
      exact (sends.hear host (.complete _ _) _ rfl).stop
        (congrArg _ (Upload.cutter_fail ..)) (Upload.flights_fail _)
        (failed _ _)
  | collapsed =>
      exact (sends.hear host (.complete _ _) _ rfl).congr rfl rfl rfl rfl
  | aborting =>
      exact (sends.hear host (.abort _) _ rfl).congr rfl rfl rfl rfl
  | aborted =>
      exact (sends.hear host (.abort _) _ rfl).stop rfl rfl (resolves _)

end Steps

end Sends

/-! ## Every step -/

/-- A cutter that goes on is level with what was drawn. -/
theorem Regular.isLevel
    {place : Place (Recorded World) Content (Marked Phase)}
    (regular : Regular target plan existing place) :
    place.upload.IsLevel place.world.facts :=
  fun going => (regular.measured.gauged going).toGauge

/-- What is known of an upload and of the parts that it asks for. -/
structure Sending (target : Target) (plan : Plan)
    (existing : PartTable Receipt)
    (place : Place (Recorded World) Content (Marked Phase)) : Prop where
  regular : Regular target plan existing place
  sends : Sends existing place.upload place.world.facts
  /-- Each part has its own bytes of whatever the source may yet give. -/
  carries : ∀ content, drawn place.world.facts <+: content →
    Carries target plan existing content place.upload place.world.facts

namespace Sending

variable {host : Host World Content Phase}
  {place later : Place (Recorded World) Content (Marked Phase)}

theorem step (sending : Sending target plan existing place)
    (unresolved : place.upload.resolved = false)
    {outcome : Option Outcome}
    (step : Step host.recording place later outcome) :
    Sending target plan existing later where
  regular := sending.regular.step unresolved step
  sends := sending.sends.step sending.regular.sound step
  carries content whole :=
    (sending.carries content (step.grows.prefix_drawn.trans whole)).step
      sending.regular.sound sending.regular.isLevel unresolved step whole

/-- An event that is no fact may be written down. -/
theorem note (sending : Sending target plan existing place)
    {event : Event} (idle : event.isFact = false) :
    Sending target plan existing (place.note event) := by
  have facts : (place.note event).world.facts = place.world.facts :=
    Recorded.facts_note_of_idle _ _ idle
  refine ⟨sending.regular.note idle, ?_, ?_⟩
  · rw [facts]
    exact sending.sends
  · rw [facts]
    exact sending.carries

theorem heard (sending : Sending target plan existing place)
    {upload : Upload Content (Marked Phase)}
    (heard : Upload.Heard place.upload upload) :
    Sending target plan existing (place.become upload) where
  regular := sending.regular.heard heard
  sends := sending.sends.heard heard
  carries content whole := (sending.carries content whole).heard heard

theorem activate (sending : Sending target plan existing place) :
    Sending target plan existing place.activate where
  regular := sending.regular.activate
  sends := sending.sends.congr rfl rfl rfl rfl
  carries content whole := (sending.carries content whole).congr rfl rfl

theorem change (sending : Sending target plan existing place)
    (world : World) :
    Sending target plan existing
      (place.change fun recorded => { recorded with world }) where
  regular := sending.regular.change world
  sends := sending.sends
  carries := sending.carries

theorem feed (sending : Sending target plan existing place)
    (feed : Content → Content) :
    Sending target plan existing (place.feed feed) where
  regular := sending.regular.feed feed
  sends :=
    sending.sends.reduce rfl
      (fun flight member => ⟨flight, member, rfl, rfl⟩)
      fun going => ⟨⟨going.running, going.unresolved⟩, fun _ => id⟩
  carries content whole :=
    (sending.carries content whole).reduce
      (sending.carries content whole).held
      fun flight member => ⟨flight, member, rfl, rfl⟩

/-- An upload that has not been driven has asked for nothing. -/
theorem begin (world : World) (target : Target) (plan : Plan)
    (given : List Receipt) (limit : Option Nat) (content : Content) :
    Sending target plan
      (Progress.ofReceipts
        (given.filter fun receipt =>
          plan.contains receipt.number)).existing
      (Place.begin world (.ofPlan target plan given limit content) :
        Place (Recorded World) Content (Marked Phase)) where
  regular := Regular.begin world target plan given limit content
  sends :=
    { once := List.nodup_nil
      cut := fun _ member => by cases member
      begun := fun _ member => by cases member
      covered := fun _ _ positive within =>
        absurd (positive.trans within) (Nat.not_succ_le_zero _) }
  carries _ _ :=
    { held := fun _ => List.suffix_refl _
      flying := fun _ member => by cases member
      sent := fun member => by cases member }

/-- The request that completes an upload comes after those for parts. -/
theorem requested_of_closing (sending : Sending target plan existing place)
    (unresolved : place.upload.resolved = false)
    {closing : Closing (Marked Phase)}
    (closed : place.upload.closing = some closing)
    (wanted : closing.cancelled = false) {number : PartNumber}
    (contained : plan.contains number = true)
    (absent : existing.find? number = none) :
    number ∈ requested place.world.facts := by
  have sound := sending.regular.sound
  have closes := sound.closing closing closed
  have running : place.upload.session.verdict = .running := by
    cases verdict : place.upload.session.verdict with
    | running => rfl
    | paused =>
        rw [closes.cancelled verdict] at wanted
        cases wanted
    | failed => exact absurd verdict closes.judged
  have done := sending.regular.measured.closing (by rw [closed]; rfl)
  rcases Plan.contains_iff.mp contained with ⟨positive, within⟩
  rw [← sound.ended done] at within
  refine (sending.sends.covered ⟨running, unresolved⟩ number positive
    within absent).resolve_left fun waits => ?_
  rw [Pool.numbers, closes.alone] at waits
  cases waits

end Sending

/-! ## Every run -/

/-- An upload that is completed has asked for every part that it lacked. -/
def Exhausts (plan : Plan) (existing : PartTable Receipt)
    (before : History) (moment : Moment) : Prop :=
  ∀ completion, moment.event = .returned (.resolved (.ok completion)) →
    ∀ number, plan.contains number = true →
      existing.find? number = none → number ∈ requested before.facts

namespace Exhausts

variable {before : History} {session : Session} {event : Event}

/-- An event at which no poll returns may always come. -/
theorem of_running (running : ∀ outcome, event ≠ .returned outcome) :
    Exhausts plan existing before ⟨session, event⟩ :=
  fun _ returned => absurd returned (running _)

theorem of_isHeard (heard : event.isHeard = true) :
    Exhausts plan existing before ⟨session, event⟩ := by
  apply of_running
  rintro outcome rfl
  cases heard

/-- A request may always be polled. -/
theorem of_marked (marked : Marked Phase) (request : Request) :
    Exhausts plan existing before ⟨session, marked.event request⟩ := by
  apply of_running
  intro outcome same
  rw [Marked.event] at same
  split at same <;> cases same

end Exhausts

/-- What is known of a recorded upload and its history. -/
structure Sending.Kept (target : Target) (plan : Plan)
    (existing : PartTable Receipt)
    (place : Place (Recorded World) Content (Marked Phase)) : Prop where
  sending : Sending target plan existing place
  exhausts : place.world.history.Always (Exhausts plan existing)

theorem Sending.Kept.step {host : Host World Content Phase}
    {place later : Place (Recorded World) Content (Marked Phase)}
    {outcome : Option Outcome}
    (kept : Sending.Kept target plan existing place)
    (unresolved : place.upload.resolved = false)
    (step : Step host.recording place later outcome) :
    Sending.Kept target plan existing later where
  sending := kept.sending.step unresolved step
  exhausts :=
    kept.exhausts.step (fun _ _ _ => .of_isHeard)
      (fun request marked _ => .of_marked marked request) step

/-- Every run asks for parts once at most, and for all of them in the end. -/
theorem Sending.keeps (host : Host World Content Phase) :
    Keeps host (Sending.Kept target plan existing)
      (Sending.Kept target plan existing) where
  activate kept _ := ⟨kept.sending.activate, kept.exhausts⟩
  step kept unresolved step := kept.step unresolved step
  returns {place later outcome} kept unresolved last := by
    have after := kept.step unresolved last
    refine ⟨after.sending.note rfl,
      History.always_concat after.exhausts ?_⟩
    intro completion ok number contained absent
    obtain rfl := Event.returned.inj ok
    obtain ⟨given, facts⟩ := last.grows
    obtain ⟨closing, completes⟩ := last.completes_of_ok
    change number ∈ requested later.world.facts
    rw [facts, requested_append]
    exact List.mem_append_left _
      (kept.sending.requested_of_closing unresolved completes.closed
        completes.wanted contained absent)
  again kept _ :=
    ⟨kept.sending.note rfl, History.always_concat kept.exhausts nofun⟩
  pause kept :=
    ⟨(kept.sending.heard (Upload.heard_pause _)).note rfl,
      History.always_concat kept.exhausts (.of_isHeard rfl)⟩
  wake number kept :=
    ⟨kept.sending.heard (Upload.heard_signal _ (.wakePart number)),
      kept.exhausts⟩
  change change kept := ⟨kept.sending.change _, kept.exhausts⟩
  feed feed kept := ⟨kept.sending.feed feed, kept.exhausts⟩

namespace Sending.Kept

variable {place : Place (Recorded World) Content (Marked Phase)}

/-- A request for a part brings its bytes of all content that was drawn. -/
theorem brings (kept : Sending.Kept target plan existing place)
    {aim : Target} {number : PartNumber} {body content : Bytes}
    (sent : .sent (.part aim number body) ∈ place.world.history.events)
    (whole : drawn place.world.history.events <+: content) :
    Request.Brings target plan existing content aim number body := by
  rw [← History.drawn_facts] at whole
  exact (kept.sending.carries content whole).sent
    ((History.mem_facts rfl).mpr sent)

/-- All parts that were not there are asked for before an upload completes. -/
theorem requested_of_returned
    (kept : Sending.Kept target plan existing place)
    {completion : Completion}
    (returned : .returned (.resolved (.ok completion)) ∈
      place.world.history.events)
    {number : PartNumber} (within : plan.contains number = true)
    (absent : existing.find? number = none) :
    number ∈ requested place.world.history.events := by
  obtain ⟨moment, listed, same⟩ := List.mem_map.mp returned
  obtain ⟨before, after, split⟩ := List.append_of_mem listed
  have asked := kept.exhausts before moment after split completion same
    number within absent
  rw [← History.requested_facts, split, History.facts_append,
    requested_append]
  exact List.mem_append_left _ asked

end Sending.Kept

/--
No two part requests of an upload are for the same part, and none is for a
part that was given a receipt.  The request for a part goes to the upload's
own target and has exactly the bytes of the content at the range of the part.
When a poll resolves with an object, the parts that were asked for are those
of the plan that were given no receipt.  This holds on any host, for any
receipts given, any uploader and any way of cutting the content into buffers,
and in every run.
-/
theorem sent_once {length size : UInt64}
    (exact : Plan.IsExact length size) (host : Host World Content Phase)
    (world : World) (uploader : Uploader) (target : Target)
    (given : List Receipt) (content : Content)
    (moves : List (Move World Content)) :
    let plan := Plan.ofLength length size
    let events :=
      ((Place.begin world
          (uploader.upload target plan given content)).replay
        host moves).world.history.events
    (requested events).Nodup ∧
      (∀ aim number body, .sent (.part aim number body) ∈ events →
        aim = target ∧ number ∉ given.map (·.number) ∧
          ∃ range, plan.range? number = .ok (some range) ∧
            body.length = range.length ∧
            body =
              ((drawn events).drop range.start.toNat).take range.length) ∧
      ∀ completion, .returned (.resolved (.ok completion)) ∈ events →
        ∀ number, number ∈ requested events ↔
          plan.contains number = true ∧
            number ∉ given.map (·.number) := by
  intro plan events
  let final := (Place.begin world
    (uploader.upload target plan given content)).replay host moves
  let existing := (Progress.ofReceipts
    (given.filter fun receipt => plan.contains receipt.number)).existing
  have kept : Sending.Kept target plan existing final :=
    (Sending.keeps host).replay
      ⟨Sending.begin world target plan given uploader.limit content,
        History.always_nil⟩
      moves
  have lacked {number : PartNumber} (within : plan.contains number = true) :=
    Progress.find?_existing_filter within given
  refine ⟨?_, ?_, ?_⟩
  · rw [← History.requested_facts]
    exact kept.sending.sends.once
  · intro aim number body sent
    have own := kept.brings sent (List.prefix_refl _)
    obtain ⟨range, found, start, length⟩ :=
      Plan.exists_range exact own.within
    have full : body.length = plan.lengthAt (number.toNat - 1) :=
      Plan.full_of_slices fun content whole => (kept.brings sent whole).own
    refine ⟨own.aimed, (lacked own.within).mp own.absent, range, found,
      full.trans length.symm, ?_⟩
    rw [start, length]
    exact own.own
  · intro completion returned number
    constructor
    · intro asked
      obtain ⟨aim, body, sent⟩ := mem_requested.mp asked
      have own := kept.brings sent (List.prefix_refl _)
      exact ⟨own.within, (lacked own.within).mp own.absent⟩
    · rintro ⟨within, absent⟩
      exact kept.requested_of_returned returned within
        ((lacked within).mpr absent)

/-- Whether a poll has returned that the upload is completed. -/
def Event.completes : Event → Bool
  | .returned (.resolved (.ok _)) => true
  | _ => false

theorem Event.returned_of_completes {event : Event}
    (completed : event.completes = true) :
    ∃ completion, event = .returned (.resolved (.ok completion)) := by
  unfold completes at completed
  split at completed
  · exact ⟨_, rfl⟩
  · cases completed

/-- What happens in one poll of an upload that has its second part. -/
def Host.gappedEvents : List Event :=
  ((Place.begin ()
      (({} : Uploader).upload ⟨⟨"upload-1"⟩, .ofPair "bucket" "key"⟩
        (.ofLength 7 2) promptGiven [1, 2, 3, 4, 5, 6, 7])).replay prompt
          [.poll]).world.history.events

/-- The second of four parts is passed over, and all others are sent. -/
theorem sent_gapped :
    requested Host.gappedEvents = [⟨1⟩, ⟨3⟩, ⟨4⟩] ∧
      (requested Host.gappedEvents).Nodup ∧
      ∀ number, number ∈ requested Host.gappedEvents ↔
        (Plan.ofLength 7 2).contains number = true ∧
          number ∉ Host.promptGiven.map (·.number) := by
  have exact : Plan.IsExact 7 2 := ⟨by decide, by decide⟩
  have resolves : Host.gappedEvents.any Event.completes = true := by
    decide +kernel
  rcases List.any_eq_true.mp resolves with ⟨event, member, completes⟩
  obtain ⟨completion, rfl⟩ := Event.returned_of_completes completes
  have sent := sent_once exact Host.prompt () {}
    ⟨⟨"upload-1"⟩, .ofPair "bucket" "key"⟩ Host.promptGiven
    [1, 2, 3, 4, 5, 6, 7] [.poll]
  exact ⟨by decide +kernel, sent.1, sent.2.2 completion member⟩

end Multipart
