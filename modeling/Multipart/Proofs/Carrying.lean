import Multipart.Proofs.Completing.Accounted

/-!
# What an upload sends

The parts that an upload sends are those of the content that its source
gives: each request has the bytes of the place that its number tells, however
the source cuts the content into buffers, and none is for a part that the
upload had from the beginning.
-/

namespace Multipart

variable {World Content Phase : Type} {target : Target} {plan : Plan}
  {existing : PartTable Receipt} {content : Bytes}

namespace Upload

/-- Whatever an upload hears, its requests are for the same bytes. -/
theorem Heard.flights {upload later : Upload Content Phase}
    (heard : Heard upload later) :
    ∀ flight ∈ later.pool.flights, ∃ old ∈ upload.pool.flights,
      old.number = flight.number ∧ old.body = flight.body := by
  intro flight member
  cases heard with
  | moved pool same => exact ⟨flight, same.mem_iff.mp member, rfl, rfl⟩
  | paused pool running unfinished same =>
      rcases List.mem_map.mp (same.mem_iff.mp member) with ⟨old, mem, rfl⟩
      exact ⟨old, mem, rfl, rfl⟩

/-- An upload that fails sends nothing new. -/
theorem flights_fail (host : Host World Content Phase)
    {upload : Upload Content Phase} {failure : Failure} :
    (upload.fail host failure).1.pool.flights = [] := by
  rw [fail]
  cases upload.session.verdict <;> rfl

end Upload

/-- Holds while a cutter that goes on depends on how much was drawn. -/
def Upload.IsLevel (upload : Upload Content Phase)
    (facts : List Event) : Prop :=
  upload.cutter.finished = false →
    upload.cutter.Gauge (drawn facts).length

/-- Holds of a request that brings its own bytes of a content. -/
structure Request.Brings (target : Target) (plan : Plan)
    (existing : PartTable Receipt) (content : Bytes) (aim : Target)
    (number : PartNumber) (body : Bytes) : Prop where
  aimed : aim = target
  within : plan.contains number = true
  absent : existing.find? number = none
  own : body = plan.slice content (number.toNat - 1)

/-- What an upload sends and holds are parts of one content. -/
structure Carries (target : Target) (plan : Plan)
    (existing : PartTable Receipt) (content : Bytes)
    (upload : Upload Content (Marked Phase)) (facts : List Event) :
    Prop where
  /-- What the cutter holds was drawn last. -/
  held : upload.cutter.finished = false →
    upload.cutter.held <:+ drawn facts
  flying : ∀ flight ∈ upload.pool.flights,
    Request.Brings target plan existing content target flight.number
      flight.body
  sent : ∀ {aim number body}, .sent (.part aim number body) ∈ facts →
    Request.Brings target plan existing content aim number body

namespace Carries

variable {upload later : Upload Content (Marked Phase)} {facts : List Event}

/-- An upload may change otherwise, as long as it adds no requests. -/
theorem reduce
    (carries : Carries target plan existing content upload facts)
    (held : later.cutter.finished = false →
      later.cutter.held <:+ drawn facts)
    (flights : ∀ flight ∈ later.pool.flights,
      ∃ old ∈ upload.pool.flights,
        old.number = flight.number ∧ old.body = flight.body) :
    Carries target plan existing content later facts where
  held := held
  flying flight member := by
    rcases flights flight member with ⟨old, mem, number, body⟩
    rw [← number, ← body]
    exact carries.flying old mem
  sent := carries.sent

theorem heard
    (carries : Carries target plan existing content upload facts)
    (heard : Upload.Heard upload later) :
    Carries target plan existing content later facts := by
  refine carries.reduce ?_ heard.flights
  rw [heard.cutter]
  exact carries.held

/-- Facts may be added that draw nothing and send what is in flight. -/
theorem add
    (carries : Carries target plan existing content upload facts)
    {events : List Event} (dry : ∀ event ∈ events, event.bytes = [])
    (sent : ∀ {aim number body},
      .sent (.part aim number body) ∈ events →
        aim = target ∧ ∃ flight ∈ upload.pool.flights,
          flight.number = number ∧ flight.body = body) :
    Carries target plan existing content upload (facts ++ events) where
  held going := by
    rw [drawn_append_of_dry facts dry]
    exact carries.held going
  flying := carries.flying
  sent member := by
    rcases List.mem_append.mp member with old | new
    · exact carries.sent old
    · rcases sent new with ⟨rfl, flight, mem, rfl, rfl⟩
      exact carries.flying flight mem

/-- Only the cutter and the requests count. -/
theorem congr
    (carries : Carries target plan existing content upload facts)
    (cutter : later.cutter = upload.cutter)
    (pool : later.pool = upload.pool) :
    Carries target plan existing content later facts := by
  apply carries.reduce (by rw [cutter]; exact carries.held)
  intro flight member
  rw [pool] at member
  exact ⟨flight, member, rfl, rfl⟩

/-- A request that has resolved is gone. -/
theorem remove
    (carries : Carries target plan existing content upload facts)
    {number : PartNumber} (cutter : later.cutter = upload.cutter)
    (pool : later.pool = upload.pool.remove number) :
    Carries target plan existing content later facts := by
  apply carries.reduce (by rw [cutter]; exact carries.held)
  intro flight member
  rw [pool, Pool.flights_remove] at member
  exact ⟨flight, (List.mem_filter.mp member).1, rfl, rfl⟩

/-- No requests are left. -/
theorem clear
    (carries : Carries target plan existing content upload facts)
    (cutter : later.cutter = upload.cutter)
    (none : later.pool.flights = []) :
    Carries target plan existing content later facts := by
  apply carries.reduce (by rw [cutter]; exact carries.held)
  intro flight member
  rw [none] at member
  cases member

theorem setPhase
    (carries : Carries target plan existing content upload facts)
    (number : PartNumber) (phase : Marked Phase) :
    Carries target plan existing content
      (upload.withPool (upload.pool.setPhase number phase)) facts := by
  refine carries.reduce carries.held ?_
  intro flight member
  change flight ∈ (upload.pool.setPhase number phase).flights at member
  rw [Pool.flights_setPhase] at member
  rcases List.mem_map.mp member with ⟨old, mem, rfl⟩
  exact ⟨old, mem, (Pool.number_setFlight ..).symm,
    (Pool.body_setFlight ..).symm⟩

section Steps

variable {host : Host World Content Phase}
  {place : Place (Recorded World) Content (Marked Phase)}

/-- A part request may be polled. -/
theorem heardPart (host : Host World Content Phase)
    (carries :
      Carries target plan existing content place.upload place.world.facts)
    (aimed : place.upload.session.target = target)
    {flight : Flight (Marked Phase)} {queued : List (Flight (Marked Phase))}
    (front : place.upload.pool.queued = flight :: queued) :
    Carries target plan existing content
      (place.heardPart host.recording flight queued).upload
      (Accounted.partFacts place flight) := by
  have sent :=
    carries.add
      (flight.phase.dry_facts
        (.part place.upload.session.target flight.number flight.body))
      fun member => by
        cases Marked.eq_of_mem_facts member
        exact ⟨aimed, flight, Pool.mem_flights_of_front front, rfl, rfl⟩
  exact sent.heard (Upload.heard_heardPart host.recording front)

/-- An answer changes nothing of what was sent. -/
theorem answer {upload : Upload Content (Marked Phase)}
    {facts : List Event}
    (carries : Carries target plan existing content upload facts)
    (request : Request) (answer : Except Failure request.Answer) :
    Carries target plan existing content upload
      (facts ++ [.answered request answer]) :=
  carries.add
    (fun event member => by
      rw [List.mem_singleton.mp member]
      rfl)
    fun member => by cases List.mem_singleton.mp member

/-- A request that is for no part may be polled. -/
theorem hear (host : Host World Content Phase)
    (carries :
      Carries target plan existing content place.upload place.world.facts)
    (request : Request) (marked : Marked Phase)
    (other : ∀ aim number body, request ≠ .part aim number body) :
    let after := place.hear
      (host.recording.poll place.world place.upload.session request marked)
    Carries target plan existing content after.upload
      after.world.facts := by
  intro after
  have facts := facts_poll host place request marked
  rw [List.append_assoc] at facts
  change after.world.facts = _ at facts
  rw [facts]
  refine Carries.heard (carries.add ?_ ?_) (Upload.heard_hear _ _)
  · intro event member
    exact (List.mem_append.mp member).elim (Marked.dry_facts _ _ event)
      (Response.dry_event _ event)
  · intro aim number body member
    rcases List.mem_append.mp member with sent | answered
    · exact absurd (Event.sent.inj (Marked.eq_of_mem_facts sent)).symm
        (other aim number body)
    · rcases Response.eq_of_mem_event answered with ⟨_, _, same⟩
      cases same

/-- What the source gives may be taken in by the cutter. -/
theorem take
    (carries :
      Carries target plan existing content place.upload place.world.facts)
    {after : Place (Recorded World) Content (Marked Phase)}
    (heard : Upload.Heard place.upload after.upload)
    {cutter : Cutter Content} {given : List Event}
    (facts : after.world.facts = place.world.facts ++ given)
    (each : ∀ event ∈ given, event = .ended ∨ ∃ buffer, event = .drew buffer)
    (held : cutter.finished = false →
      cutter.held <:+ drawn after.world.facts) :
    Carries target plan existing content { after.upload with cutter }
      after.world.facts where
  held := held
  flying := (carries.heard heard).flying
  sent member := by
    rw [facts] at member
    rcases List.mem_append.mp member with old | new
    · exact carries.sent old
    · rcases each _ new with same | ⟨buffer, same⟩ <;> cases same

variable {after : Place (Recorded World) Content (Marked Phase)}
  {cutter : Cutter Content}

/-- The part that is cut next has the bytes of its place. -/
theorem slice_eq_of_polled
    (sound : place.upload.Sound target plan existing)
    (level : place.upload.IsLevel place.world.facts)
    (carries :
      Carries target plan existing content place.upload place.world.facts)
    (unresolved : place.upload.resolved = false)
    (may : place.upload.MayCut) {body : Bytes}
    (polled :
      place.upload.cutter.poll host.recording.source place =
        (after, cutter, .part body))
    (whole : drawn after.world.facts <+: content) :
    body = plan.slice content place.upload.cutter.emitted ∧
      cutter.held <:+ drawn after.world.facts := by
  have going := sound.unfinished unresolved may
  obtain ⟨filled, draws, kept, full, _⟩ :=
    Cutter.yields_of_polled (level going) going polled
  obtain ⟨more, bytes, held⟩ := draws.held
  rcases carries.held going with ⟨front, before⟩
  have measured := (level going).measured
  rw [← before, List.length_append, sound.follows] at measured
  have same : drawn after.world.facts = front ++ (body ++ cutter.held) := by
    rw [bytes, ← before, List.append_assoc, ← held, kept]
  constructor
  · rcases whole with ⟨rest, rfl⟩
    rw [same, List.append_assoc, List.append_assoc]
    refine (Plan.slice_of_append (by omega) ?_).symm
    rw [full, Cutter.want, sound.follows]
  · rw [same, ← List.append_assoc]
    exact List.suffix_append _ _

/-- What the cutter holds after it drew buffers was drawn last. -/
theorem held_of_draws
    (carries :
      Carries target plan existing content place.upload place.world.facts)
    (going : place.upload.cutter.finished = false)
    (draws : Cutter.Draws place after place.upload.cutter cutter) :
    cutter.held <:+ drawn after.world.facts := by
  obtain ⟨more, bytes, held⟩ := draws.held
  rcases carries.held going with ⟨front, before⟩
  rw [bytes, ← before, List.append_assoc, ← held]
  exact List.suffix_append _ _

/-- A part that was cut may be sent, or passed over. -/
theorem sendPart (host : Host World Content (Marked Phase))
    {upload : Upload Content (Marked Phase)} {facts : List Event}
    {cutter : Cutter Content} {body : Bytes}
    (carries :
      Carries target plan existing content { upload with cutter } facts)
    (sound : upload.Sound target plan existing)
    (follows : cutter.plan = upload.cutter.plan)
    (emitted : cutter.emitted = upload.cutter.emitted + 1)
    (own : body = plan.slice content upload.cutter.emitted) :
    Carries target plan existing content
      ({ upload with cutter }.sendPart host body) facts := by
  have next := sound.next_toNat follows emitted
  have bound := cutter.emitted_le
  rw [follows, sound.follows, emitted] at bound
  rw [Upload.sendPart]
  dsimp only
  split
  · exact carries.congr rfl rfl
  · rename_i fresh
    have absent : existing.find? upload.session.nextPart = none := by
      rw [← sound.existed]
      simpa [PartTable.contains] using fresh
    refine ⟨carries.held, ?_, carries.sent⟩
    intro flight member
    rcases List.mem_cons.mp
      ((Pool.flights_push _ _).mem_iff.mp member) with rfl | old
    · refine ⟨rfl, ?_, absent, ?_⟩
      · change plan.contains upload.session.nextPart = true
        rw [Plan.contains_iff]
        omega
      · change body =
          plan.slice content (upload.session.nextPart.toNat - 1)
        rw [next]
        exact own
    · exact carries.flying flight old

/-- Every step keeps an upload to the parts of a content. -/
theorem step (sound : place.upload.Sound target plan existing)
    (level : place.upload.IsLevel place.world.facts)
    (unresolved : place.upload.resolved = false)
    (carries :
      Carries target plan existing content place.upload place.world.facts)
    {later : Place (Recorded World) Content (Marked Phase)}
    {outcome : Option Outcome}
    (step : Step host.recording place later outcome)
    (whole : drawn later.world.facts <+: content) :
    Carries target plan existing content later.upload
      later.world.facts := by
  have aimed := sound.aimed
  have ends {after : Place (Recorded World) Content (Marked Phase)}
      {cutter : Cutter Content} {outcome : Cutter.Outcome}
      (last : outcome = .ended ∨ ∃ failure, outcome = .failed failure)
      (may : place.upload.MayCut)
      (polled : place.upload.cutter.poll host.recording.source place =
        (after, cutter, outcome)) : cutter.finished = true := by
    have goesOn := (Cutter.polled host.recording polled).goesOn
      (sound.unfinished unresolved may)
    rcases last with rfl | ⟨failure, rfl⟩
    · exact goesOn.1
    · exact goesOn
  cases step with
  | withdrawn => exact carries.remove rfl rfl
  | waiting opened front wanted answer =>
      rw [Place.world_become, Accounted.facts_of_waiting _ answer]
      exact (carries.heardPart host aimed front).setPhase _ _
  | recalled opened front wanted answer =>
      rw [Place.world_become, Accounted.facts_of_waiting _ answer]
      exact ((carries.heardPart host aimed front).setPhase _ _).remove
        rfl rfl
  | received opened front wanted answer =>
      rw [Place.world_become, Accounted.facts_of_finished _ answer]
      exact ((carries.heardPart host aimed front).answer _ _).remove rfl rfl
  | refused opened front wanted answer left =>
      subst left
      rw [Place.world_become, Accounted.facts_of_finished _ answer]
      exact ((carries.heardPart host aimed front).answer _ _).clear
        (Upload.cutter_fail ..) (Upload.flights_fail _)
  | resting => exact carries
  | starved may polled | snapped may polled =>
      have cut := Cutter.polled host.recording polled
      have going := sound.unfinished unresolved may
      have yields := Cutter.yields_of_polled (level going) going polled
      rcases facts_polled polled with ⟨given, facts, each⟩
      exact carries.take cut.heard facts each fun _ =>
        carries.held_of_draws going yields.1
  | cut may polled =>
      have cut := Cutter.polled host.recording polled
      rcases facts_polled polled with ⟨given, facts, each⟩
      have own := slice_eq_of_polled sound level carries unresolved may
        polled whole
      have taken := carries.take cut.heard facts each fun _ => own.2
      refine taken.sendPart host.recording (sound.heard cut.heard)
        cut.follows cut.emitted ?_
      rw [cut.heard.cutter]
      exact own.1
  | spoiled may polled =>
      have finished := ends (.inr ⟨_, rfl⟩) may polled
      rcases facts_polled polled with ⟨given, facts, each⟩
      have taken := carries.take (Cutter.polled host.recording polled).heard
        facts each fun going => Bool.noConfusion (finished.symm.trans going)
      exact taken.clear (Upload.cutter_fail ..) (Upload.flights_fail _)
  | exhausted may polled =>
      have finished := ends (.inl rfl) may polled
      rcases facts_polled polled with ⟨given, facts, each⟩
      have taken := carries.take (Cutter.polled host.recording polled).heard
        facts each fun going => Bool.noConfusion (finished.symm.trans going)
      exact taken.congr rfl rfl
  | closes => exact carries.congr rfl rfl
  | stumbles => exact carries.congr rfl rfl
  | parks => exact carries.clear rfl rfl
  | unclosed => exact carries.clear rfl rfl
  | closing =>
      exact (carries.hear host (.complete _ _) _ nofun).congr rfl rfl
  | reopened => exact (carries.hear host (.complete _ _) _ nofun).clear rfl rfl
  | rejected unaborted closed wanted answer left =>
      subst left
      exact (carries.hear host (.complete _ _) _ nofun).clear
        (Upload.cutter_fail ..) (Upload.flights_fail _)
  | completes =>
      exact (carries.hear host (.complete _ _) _ nofun).clear rfl rfl
  | collapsed =>
      exact (carries.hear host (.complete _ _) _ nofun).congr rfl rfl
  | aborting =>
      exact (carries.hear host (.abort _) _ nofun).congr rfl rfl
  | aborted => exact (carries.hear host (.abort _) _ nofun).clear rfl rfl

end Steps

end Carries

end Multipart
