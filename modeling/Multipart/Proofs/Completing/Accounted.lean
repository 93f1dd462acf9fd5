import Multipart.Proofs.Completing.Pending

/-!
# Accounts are kept

Whatever an upload does on a host that numbers its receipts, the facts of its
run account for its receipts, and no part that was cut is ever lost.  So no
receipt is missing when the upload is to be completed.
-/

namespace Multipart

variable {World Content Phase : Type} {target : Target} {plan : Plan}
  {existing : PartTable Receipt}

/-- Holds of a host whose receipts carry the number that was asked for. -/
def Host.IsNumbered (host : Host World Content Phase) : Prop :=
  ∀ world session target number body phase receipt,
    (host.poll world session (.part target number body) phase).outcome =
        .finished (.ok receipt) →
      receipt.number = number

/-! ## Every step keeps the accounts -/

/-- What is known of an upload whose run is recorded. -/
structure Accounted (target : Target) (plan : Plan)
    (existing : PartTable Receipt)
    (place : Place (Recorded World) Content (Marked Phase)) : Prop where
  sound : place.upload.Sound target plan existing
  accounts : Accounts target plan place.upload place.world.facts
  pending : place.upload.IsGoing →
    Pending target place.upload place.world.facts

namespace Accounted

variable {host : Host World Content Phase}
  {place : Place (Recorded World) Content (Marked Phase)}

/-- The facts once a part request was sent, with its answer to come. -/
def partFacts (place : Place (Recorded World) Content (Marked Phase))
    (flight : Flight (Marked Phase)) : List Event :=
  place.world.facts ++
    flight.phase.facts
      (.part place.upload.session.target flight.number flight.body)

/-- Sending a request that completes nothing is quiet. -/
theorem isQuiet_facts (marked : Marked Phase) {request : Request}
    (opened : (Event.sent request).closes = false) :
    ∀ event ∈ marked.facts request, event.IsQuiet := by
  intro event member
  rw [Marked.eq_of_mem_facts member]
  exact ⟨opened, rfl⟩

/-- Polling a part request tells that it was sent, and of its answer. -/
theorem facts_heardPart (flight : Flight (Marked Phase))
    (queued : List (Flight (Marked Phase))) :
    (place.heardPart host.recording flight queued).world.facts =
      partFacts place flight ++
        (host.poll place.world.world place.upload.session
          (.part place.upload.session.target flight.number flight.body)
          flight.phase.phase).outcome.event?.toList := by
  let polling := place.become
    (place.upload.withPool (place.upload.pool.polling flight queued))
  have facts := facts_poll host polling
    (.part place.upload.session.target flight.number flight.body)
    flight.phase
  exact facts

theorem facts_of_waiting {flight : Flight (Marked Phase)}
    {phase : Marked Phase} (queued : List (Flight (Marked Phase)))
    (answer :
      (host.recording.askPart place flight).outcome = .waiting phase) :
    (place.heardPart host.recording flight queued).world.facts =
      partFacts place flight := by
  rw [facts_heardPart, (Response.eq_of_mark_eq_waiting answer).1]
  exact List.append_nil _

theorem facts_of_finished {flight : Flight (Marked Phase)}
    {answer : Except Failure Receipt}
    (queued : List (Flight (Marked Phase)))
    (answered :
      (host.recording.askPart place flight).outcome = .finished answer) :
    (place.heardPart host.recording flight queued).world.facts =
      partFacts place flight ++
        [.answered
          (.part place.upload.session.target flight.number flight.body)
          answer] := by
  rw [facts_heardPart, Response.eq_of_mark_eq_finished answered]
  rfl

/-- A part request may be polled. -/
theorem heardPart (accounted : Accounted target plan existing place)
    {flight : Flight (Marked Phase)} {queued : List (Flight (Marked Phase))}
    (front : place.upload.pool.queued = flight :: queued) :
    let after := place.heardPart host.recording flight queued
    Accounts target plan after.upload (partFacts place flight) ∧
      (after.upload.IsGoing →
        Pending target after.upload (partFacts place flight) ∧
          flight ∈ after.upload.pool.flights) := by
  intro after
  have heard := Upload.heard_heardPart host.recording front
  constructor
  · exact (accounted.accounts.heard heard).quiet
      (isQuiet_facts _ rfl) (Marked.dry_facts _ _)
  · intro going
    have same := (heard.moved_of_isGoing going).2
    have member :=
      same.mem_iff.mpr (Pool.mem_flights_of_front front)
    refine ⟨(Pending.heard accounted.pending heard going).add ?_ ?_,
      member⟩
    · intro aim number body sent
      cases Marked.eq_of_mem_facts sent
      exact ⟨accounted.sound.aimed, flight, member, rfl, rfl⟩
    · intro failure drew
      cases Marked.eq_of_mem_facts drew

/-- What a source that does not fail gives. -/
def IsGiven (event : Event) : Prop :=
  event = .ended ∨ ∃ buffer, event = .drew (.ok buffer)

/-- What the source gives may be taken in by the cutter. -/
theorem take (accounted : Accounted target plan existing place)
    {after : Place (Recorded World) Content (Marked Phase)}
    {cutter : Cutter Content} {outcome : Cutter.Outcome}
    (cut : Cutter.Polled place after cutter outcome)
    (may : place.upload.MayCut) {given : List Event}
    (facts : after.world.facts = place.world.facts ++ given)
    (each : ∀ event ∈ given, IsGiven event)
    (gauge : cutter.finished = false →
      cutter.Gauge (drawn after.world.facts).length) :
    Accounts target plan { after.upload with cutter } after.world.facts ∧
      (after.upload.IsGoing →
        Pending target after.upload after.world.facts) := by
  rw [facts] at gauge ⊢
  constructor
  · refine (accounted.accounts.heard cut.heard).withCutter ?_
      (cut.heard.sourceDone.trans may.unfinished) ?_ gauge
    · intro event member
      rcases each event member with rfl | ⟨buffer, rfl⟩ <;>
        exact ⟨rfl, rfl⟩
    · rw [cut.emitted]
      exact Nat.le_add_right _ _
  · intro going
    apply (Pending.heard accounted.pending cut.heard going).add
    · intro aim number body sent
      rcases each _ sent with other | ⟨buffer, other⟩ <;> cases other
    · intro failure drew
      rcases each _ drew with other | ⟨buffer, other⟩ <;> cases other

variable {after : Place (Recorded World) Content (Marked Phase)}
  {cutter : Cutter Content}

/-- What polling the cutter of an upload makes of it. -/
theorem yields (accounted : Accounted target plan existing place)
    (unresolved : place.upload.resolved = false)
    (may : place.upload.MayCut) {outcome : Cutter.Outcome}
    (polled :
      place.upload.cutter.poll host.recording.source place =
        (after, cutter, outcome)) :
    Cutter.Yields place after place.upload.cutter cutter outcome := by
  have going := accounted.sound.unfinished unresolved may
  exact Cutter.yields_of_polled (accounted.accounts.gauge going) going
    polled

/-- The cutter may be left without a part. -/
theorem draw (accounted : Accounted target plan existing place)
    (may : place.upload.MayCut) {outcome : Cutter.Outcome}
    (polled :
      place.upload.cutter.poll host.recording.source place =
        (after, cutter, outcome))
    (draws : Cutter.Draws place after place.upload.cutter cutter) :
    Accounts target plan { after.upload with cutter } after.world.facts ∧
      (after.upload.IsGoing →
        Pending target { after.upload with cutter }
          after.world.facts) := by
  have cut := Cutter.polled host.recording polled
  obtain ⟨given, facts, each⟩ := draws.given
  have taken := accounted.take cut may facts
    (fun event member => .inr (each event member)) fun _ => draws.gauge
  refine ⟨taken.1, fun still => ?_⟩
  have same : cutter.emitted = after.upload.cutter.emitted := by
    rw [draws.emitted, cut.heard.cutter]
  exact
    { taken.2 still with
      covered := fun number positive within =>
        (taken.2 still).covered number positive (same ▸ within) }

/-- A part may be cut, and sent or passed over. -/
theorem cut (accounted : Accounted target plan existing place)
    (unresolved : place.upload.resolved = false)
    (may : place.upload.MayCut) {body : Bytes}
    (polled :
      place.upload.cutter.poll host.recording.source place =
        (after, cutter, .part body)) :
    let sent := { after.upload with cutter }.sendPart host.recording body
    Accounts target plan sent after.world.facts ∧
      (sent.IsGoing → Pending target sent after.world.facts) := by
  intro sent
  have cut := Cutter.polled host.recording polled
  obtain ⟨filled, draws, _, _, gauge⟩ :=
    accounted.yields unresolved may polled
  obtain ⟨given, facts, each⟩ := draws.given
  have sound := accounted.sound.heard cut.heard
  have next := sound.next_toNat cut.follows cut.emitted
  have taken := accounted.take cut may facts
    (fun event member => .inr (each event member)) fun _ => gauge
  constructor
  · apply taken.1.sendPart host.recording
    by_contra found
    rcases Option.ne_none_iff_exists'.mp found with ⟨receipt, entry⟩
    have below := ((accounted.accounts.heard cut.heard).recorded entry).1
    omega
  · intro still
    have going : Upload.IsGoing { after.upload with cutter } :=
      Upload.isGoing_of_sendPart host.recording still
    exact (taken.2 ⟨going.running, going.unresolved⟩).sendPart
      host.recording next cut.emitted

/-- The source may end. -/
theorem exhaust (accounted : Accounted target plan existing place)
    (unresolved : place.upload.resolved = false)
    (may : place.upload.MayCut)
    (polled :
      place.upload.cutter.poll host.recording.source place =
        (after, cutter, .ended)) :
    let ended := { after.upload with cutter }.endSource
    Accounts target plan ended after.world.facts ∧
      (ended.IsGoing → Pending target ended after.world.facts) := by
  intro ended
  have cut := Cutter.polled host.recording polled
  have going := accounted.sound.unfinished unresolved may
  obtain ⟨middle, filled, draws, ends, whole⟩ :=
    accounted.yields unresolved may polled
  obtain ⟨given, facts, each⟩ := draws.given
  have finished : cutter.finished = true := (cut.goesOn going).1
  have all : after.world.facts =
      place.world.facts ++ (given ++ [.ended]) := by
    rw [ends, facts, List.append_assoc]
  have taken := accounted.take cut may all
    (fun event member => (List.mem_append.mp member).elim
      (fun old => .inr (each event old))
      fun last => .inl (List.mem_singleton.mp last))
    fun unfinished => Bool.noConfusion (finished.symm.trans unfinished)
  constructor
  · have opened := may.toIsOpen.heard cut.heard
    refine taken.1.endSource ?_ ?_ ⟨opened.unaborted, opened.unclosed⟩
    · rw [ends]
      simp
    · rw [ends, drawn_concat, Event.draw_of_dry rfl, whole,
        accounted.sound.follows]
  · intro still
    have same : after.upload.IsGoing :=
      ⟨still.running, still.unresolved⟩
    exact
      { taken.2 same with
        covered := fun number positive within => by
          change number.toNat ≤ cutter.emitted at within
          rw [show cutter.emitted = after.upload.cutter.emitted from
            cut.emitted] at within
          exact (taken.2 same).covered number positive within }

/-- The source may fail, or give too much or too little. -/
theorem spoil (accounted : Accounted target plan existing place)
    (unresolved : place.upload.resolved = false)
    (may : place.upload.MayCut) {failure : Failure}
    (polled :
      place.upload.cutter.poll host.recording.source place =
        (after, cutter, .failed failure)) :
    Accounts target plan
      ({ after.upload with cutter }.fail host.recording failure).1
      after.world.facts := by
  have cut := Cutter.polled host.recording polled
  have finished : cutter.finished = true :=
    cut.goesOn (accounted.sound.unfinished unresolved may)
  rcases facts_polled polled with ⟨given, facts, each⟩
  rw [facts]
  refine Accounts.fail ?_ host.recording failure
  refine (accounted.accounts.heard cut.heard).withCutter ?_
    (cut.heard.sourceDone.trans may.unfinished) ?_
    fun going => Bool.noConfusion (finished.symm.trans going)
  · intro event member
    rcases each event member with rfl | ⟨buffer, rfl⟩ <;>
      exact ⟨rfl, rfl⟩
  · rw [cut.emitted]
    exact Nat.le_add_right _ _

/-- No receipt is missing when the upload is to be completed. -/
theorem not_missing (accounted : Accounted target plan existing place)
    (unresolved : place.upload.resolved = false)
    (may : place.upload.session.mayComplete = true)
    {number : PartNumber}
    (missing :
      place.upload.session.progress.assemble place.upload.session.plan =
        .error number) : False := by
  simp only [Session.mayComplete, Bool.and_eq_true,
    decide_eq_true_eq] at may
  rcases may with ⟨⟨⟨done, landed⟩, running⟩, _⟩
  have sound := accounted.sound
  rcases Progress.receipt?_of_collect missing with ⟨member, none⟩
  rw [sound.planned, Plan.mem_numbers, Plan.contains_iff] at member
  rw [← sound.ended done] at member
  have pending := accounted.pending ⟨running, unresolved⟩
  rcases pending.covered number member.1 member.2 with some | flying
  · exact some none
  · -- A part in flight would be counted.
    rw [sound.counted unresolved (by simp [running]),
      ← Pool.length_flights, List.length_eq_zero_iff] at landed
    rw [Pool.numbers, landed] at flying
    cases flying

/-- No step of the upload ends for want of a receipt. -/
theorem faultless (accounted : Accounted target plan existing place)
    (unresolved : place.upload.resolved = false)
    {later : Place (Recorded World) Content (Marked Phase)}
    {number : PartNumber} {count : UInt32} :
    ¬ Step host.recording place later
      (some (.faulted (.noReceipt number count))) := by
  intro step
  generalize last :
    some (Outcome.faulted (.noReceipt number count)) = final at step
  have failing {upload : Upload Content (Marked Phase)} {failure : Failure}
      (same : some (Outcome.faulted (.noReceipt number count)) =
        (upload.fail host.recording failure).2) : False := by
    rcases Upload.outcome_fail host.recording same with ⟨ending, other⟩
    cases other
  cases step with
  | refused => exact failing last
  | spoiled => exact failing last
  | stumbles opened may missing =>
      exact accounted.not_missing unresolved may missing
  | rejected => exact failing last
  | _ => cases last

/-- An answer that lands no part is quiet. -/
theorem isQuiet_event {request : Request} (response : Response Phase request)
    (unlanded : ∀ answer,
      response = .finished answer →
        (Event.answered request answer).lands = false) :
    ∀ event ∈ response.event?.toList, event.IsQuiet := by
  intro event member
  rcases Response.eq_of_mem_event member with ⟨answer, finished, rfl⟩
  exact ⟨rfl, unlanded answer finished⟩

/-- The request that completes an upload may be polled. -/
theorem heardClosing (host : Host World Content Phase)
    (accounted : Accounted target plan existing place)
    {closing : Closing (Marked Phase)}
    (closed : place.upload.closing = some closing) :
    let heard := place.hear (host.recording.askClosing place closing)
    Accounts target plan { heard.upload with closing := none }
        heard.world.facts ∧
      (heard.upload.IsGoing →
        Pending target heard.upload heard.world.facts) ∧
      heard.upload.session.sourceDone = true ∧
      closing.receipts.map some =
        plan.numbers.map heard.upload.session.progress.receipt? := by
  intro after
  have heard : Upload.Heard place.upload after.upload := place.heard _
  have accounts := accounted.accounts.heard heard
  obtain ⟨other, waits, receipts, phase⟩ := heard.exists_closing closed
  have begun : after.upload.session.completing = true := by
    rw [heard.session]
    exact (accounted.sound.closing closing closed).begun
  have facts := facts_poll host place
    (.complete place.upload.session.target closing.receipts) closing.phase
  rw [List.append_assoc] at facts
  change after.world.facts = _ at facts
  have answer := isQuiet_event
    (host.poll place.world.world place.upload.session
      (.complete place.upload.session.target closing.receipts)
      closing.phase.phase).outcome fun _ _ => rfl
  refine ⟨?_, ?_, ?_⟩
  · have polled := accounts.poll_closing waits begun closing.receipts
    rw [phase, ← accounted.sound.aimed] at polled
    have told := polled.quiet answer (Response.dry_event _)
    rw [List.append_assoc, ← facts] at told
    rw [← accounted.sound.aimed]
    exact told
  · intro going
    rw [facts]
    apply (Pending.heard accounted.pending heard going).add
    · intro aim number body sent
      rcases List.mem_append.mp sent with sent | sent
      · cases Marked.eq_of_mem_facts sent
      · rcases Response.eq_of_mem_event sent with ⟨_, _, other⟩
        cases other
    · intro failure drew
      rcases List.mem_append.mp drew with drew | drew
      · cases Marked.eq_of_mem_facts drew
      · rcases Response.eq_of_mem_event drew with ⟨_, _, other⟩
        cases other
  · have ready := accounts.closing other waits
    rw [receipts] at ready
    exact ready

/-- The request that aborts an upload may be polled. -/
theorem heardAbort (host : Host World Content Phase)
    (accounted : Accounted target plan existing place)
    (phase : Marked Phase) :
    let heard := place.hear (host.recording.askAbort place phase)
    Accounts target plan heard.upload heard.world.facts := by
  intro after
  have facts := facts_poll host place
    (.abort place.upload.session.target) phase
  have answer := isQuiet_event
    (host.poll place.world.world place.upload.session
      (.abort place.upload.session.target) phase.phase).outcome
    fun _ _ => rfl
  have sent :
      ∀ event ∈ phase.facts (.abort place.upload.session.target),
        event.IsQuiet :=
    isQuiet_facts phase rfl
  have heard : Upload.Heard place.upload after.upload := place.heard _
  have told := ((accounted.accounts.heard heard).quiet sent
    (Marked.dry_facts _ _)).quiet answer (Response.dry_event _)
  rw [← facts] at told
  exact told

/-- Every step keeps what is known of an upload. -/
theorem step (numbered : host.IsNumbered)
    (accounted : Accounted target plan existing place)
    (unresolved : place.upload.resolved = false)
    {later : Place (Recorded World) Content (Marked Phase)}
    {outcome : Option Outcome}
    (step : Step host.recording place later outcome) :
    Accounted target plan existing later := by
  have sound := accounted.sound
  have next := sound.step unresolved step
  suffices
      Accounts target plan later.upload later.world.facts ∧
        (later.upload.IsGoing →
          Pending target later.upload later.world.facts) from
    ⟨next, this.1, this.2⟩
  have resolves (upload : Upload Content (Marked Phase)) :
      ¬ upload.resolve.IsGoing := fun going =>
    Bool.noConfusion going.unresolved
  cases step with
  | withdrawn opened front cancelled =>
      refine ⟨accounted.accounts.settle _, fun going => ?_⟩
      exact absurd going.running (sound.cancelled _
        (Pool.mem_flights_of_front front) cancelled)
  | waiting opened front wanted answer =>
      rcases accounted.heardPart front with ⟨accounts, pending⟩
      rw [Place.world_become, facts_of_waiting _ answer]
      refine ⟨accounts.setPhase _ _, fun going => ?_⟩
      exact (pending ⟨going.running, going.unresolved⟩).1.setPhase _ _
  | recalled opened front wanted answer cancelled =>
      have heard := Upload.heard_heardPart host.recording front
      rcases accounted.heardPart front with ⟨accounts, _⟩
      rw [Place.world_become, facts_of_waiting _ answer]
      refine ⟨(accounts.setPhase _ _).settle _, fun going => ?_⟩
      rcases cancelled with ⟨other, member, _, flagged⟩
      exact absurd going.running
        ((sound.heard heard).cancelled other member flagged)
  | @received flight queued receipt opened front wanted answer =>
      have heard := Upload.heard_heardPart host.recording front
      rcases accounted.heardPart front with ⟨accounts, pending⟩
      have same : receipt.number = flight.number :=
        numbered _ _ _ _ _ _ _ (Response.eq_of_mark_eq_finished answer)
      have member := heard.numbers.mem_iff.mpr
        (List.mem_map_of_mem (Pool.mem_flights_of_front front))
      rw [Place.world_become, facts_of_finished _ answer, sound.aimed]
      refine ⟨accounts.keep (sound.heard heard) member same, ?_⟩
      intro going
      rcases pending ⟨going.running, going.unresolved⟩ with ⟨still, flying⟩
      exact still.keep (sound.heard heard).distinct flying same
  | refused opened front wanted answer left =>
      subst left
      rcases accounted.heardPart front with ⟨accounts, _⟩
      rw [Place.world_become, facts_of_finished _ answer]
      refine ⟨?_, fun going =>
        absurd going (Upload.not_isGoing_fail host.recording)⟩
      refine ((accounts.settle _).fail host.recording _).quiet ?_ ?_
      · intro event member
        rw [List.mem_singleton.mp member]
        exact ⟨rfl, rfl⟩
      · intro event member
        rw [List.mem_singleton.mp member]
        rfl
  | resting => exact ⟨accounted.accounts, accounted.pending⟩
  | starved may polled | snapped may polled =>
      have draws := (accounted.yields unresolved may polled).1
      rcases accounted.draw may polled draws with ⟨accounts, pending⟩
      exact ⟨accounts, fun going =>
        pending ⟨going.running, going.unresolved⟩⟩
  | cut may polled => exact accounted.cut unresolved may polled
  | spoiled may polled =>
      exact ⟨accounted.spoil unresolved may polled, fun going =>
        absurd going (Upload.not_isGoing_fail host.recording)⟩
  | exhausted may polled => exact accounted.exhaust unresolved may polled
  | closes opened may assembled =>
      refine ⟨accounted.accounts.close host sound.planned may assembled, ?_⟩
      intro going
      have pending := accounted.pending ⟨going.running, going.unresolved⟩
      exact ⟨pending.covered, pending.sent, pending.clean⟩
  | stumbles opened may missing =>
      exact (accounted.not_missing unresolved may missing).elim
  | parks =>
      exact ⟨accounted.accounts.resolve, fun going =>
        absurd going (resolves _)⟩
  | unclosed =>
      exact ⟨accounted.accounts.unclose.resolve, fun going =>
        absurd going (resolves _)⟩
  | @closing closing _ unaborted closed wanted answer kept =>
      obtain ⟨accounts, pending, done, each⟩ :=
        accounted.heardClosing host closed
      refine ⟨accounts.reclose done each
        (Response.eq_of_mark_eq_waiting answer).2, fun going => ?_⟩
      have still := pending ⟨going.running, going.unresolved⟩
      exact ⟨still.covered, still.sent, still.clean⟩
  | reopened unaborted closed =>
      exact ⟨(accounted.heardClosing host closed).1.resolve, fun going =>
        absurd going (resolves _)⟩
  | rejected unaborted closed wanted answer left =>
      subst left
      exact ⟨(accounted.heardClosing host closed).1.fail host.recording _,
        fun going => absurd going (Upload.not_isGoing_fail host.recording)⟩
  | completes unaborted closed =>
      refine ⟨?_, fun going => absurd going (resolves _)⟩
      have accounts := (accounted.heardClosing host closed).1
      exact Accounts.resolve
        (accounts.reduce rfl rfl rfl rfl (fun _ member => member) nofun)
  | @collapsed closing _ _ unaborted closed wanted answer =>
      have begun := (Response.eq_of_mark_eq_panicked answer).2
      obtain ⟨accounts, pending, done, each⟩ :=
        accounted.heardClosing host closed
      have heard := place.heard (host.recording.askClosing place closing)
      obtain ⟨other, waits, receipts, _⟩ := heard.exists_closing closed
      rw [Upload.rephase, waits]
      have same := (congrArg (List.map some) receipts).trans each
      refine ⟨accounts.reclose done same begun, fun going => ?_⟩
      have still := pending ⟨going.running, going.unresolved⟩
      exact ⟨still.covered, still.sent, still.clean⟩
  | @aborting phase _ begun answer =>
      refine ⟨(accounted.heardAbort host _).reduce rfl rfl rfl rfl
        (fun _ member => member)
        fun closing closed => ⟨closing, closed, rfl, id⟩, fun going => ?_⟩
      have failed := sound.aborting (by rw [begun]; rfl)
      have heard := place.heard (host.recording.askAbort place phase)
      have still := (heard.moved_of_isGoing
        ⟨going.running, going.unresolved⟩).1.running
      exact Verdict.noConfusion (failed.symm.trans still)
  | aborted begun answered =>
      refine ⟨Accounts.resolve ?_, fun going => absurd going (resolves _)⟩
      exact (accounted.heardAbort host _).reduce rfl rfl rfl rfl
        (fun _ member => member)
        fun closing closed => ⟨closing, closed, rfl, id⟩

/-! ### Between two polls -/

/-- An event that is no fact may be written down. -/
theorem note (accounted : Accounted target plan existing place)
    {event : Event} (idle : event.isFact = false) :
    Accounted target plan existing (place.note event) := by
  have facts : (place.note event).world.facts = place.world.facts :=
    Recorded.facts_note_of_idle _ _ idle
  refine ⟨accounted.sound, ?_, ?_⟩
  · rw [facts]
    exact accounted.accounts
  · rw [facts]
    exact accounted.pending

/-- What an upload hears between two polls keeps its accounts. -/
theorem heard (accounted : Accounted target plan existing place)
    {later : Upload Content (Marked Phase)}
    (heard : Upload.Heard place.upload later) :
    Accounted target plan existing (place.become later) where
  sound := accounted.sound.heard heard
  accounts := accounted.accounts.heard heard
  pending := Pending.heard accounted.pending heard

theorem activate (accounted : Accounted target plan existing place) :
    Accounted target plan existing place.activate where
  sound := accounted.sound.activate
  accounts := accounted.accounts.reduce rfl rfl rfl rfl
    (fun _ member => member)
    fun closing closed => ⟨closing, closed, rfl, id⟩
  pending going := by
    have pending := accounted.pending ⟨going.running, going.unresolved⟩
    exact ⟨pending.covered, pending.sent, pending.clean⟩

/-- The surroundings and the source may change. -/
theorem change (accounted : Accounted target plan existing place)
    (world : World) :
    Accounted target plan existing
      (place.change fun recorded => { recorded with world }) where
  sound := accounted.sound
  accounts := accounted.accounts
  pending := accounted.pending

theorem feed (accounted : Accounted target plan existing place)
    (feed : Content → Content) :
    Accounted target plan existing (place.feed feed) := by
  have accounts := accounted.accounts
  refine ⟨accounted.sound.feed feed,
    { accounts with gauge := fun going => (accounts.gauge going).feed _ },
    fun going => ?_⟩
  · have pending := accounted.pending ⟨going.running, going.unresolved⟩
    exact ⟨pending.covered, pending.sent, pending.clean⟩

end Accounted

/-- The accounts of an upload that has not been driven are empty. -/
theorem Accounted.begin (world : World) (target : Target) (plan : Plan)
    (given : List Receipt) (limit : Option Nat) (content : Content) :
    Accounted target plan
      (Progress.ofReceipts
        (given.filter fun receipt =>
          plan.contains receipt.number)).existing
      (Place.begin world (.ofPlan target plan given limit content) :
        Place (Recorded World) Content (Marked Phase)) where
  sound := Upload.sound_ofPlan target plan given limit content
  accounts :=
    { recorded := fun found => by cases found
      answered := fun member => by cases member
      awaited := fun _ member => by cases member
      ended := fun done => by cases done
      gauge := fun _ => ⟨Nat.zero_le _, rfl, rfl⟩
      closing := nofun
      unsent := fun _ => rfl
      once := Nat.zero_le _ }
  pending _ :=
    { covered := fun number positive within =>
        absurd (Nat.le_trans positive within) (Nat.not_succ_le_zero 0)
      sent := fun member => by cases member
      clean := fun _ member => by cases member }

end Multipart
