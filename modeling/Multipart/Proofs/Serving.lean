import Multipart.Proofs.Store
import Multipart.Proofs.Upload.Sound
import Multipart.Proofs.Upload.Keeping

/-!
# What a step makes of the store

A client in front of a store may let a request wait, and it may refuse it,
but it neither makes up an answer nor changes a request.  Meanwhile the store
serves other uploads.  So a step of an upload comes to one of three things:
nothing is served for the upload, one of its parts is taken, or the upload
ends there.  The main statement, `Step.serves`, says this of every step.
-/

namespace Multipart

variable {World Content Phase : Type} {target : Target} {plan : Plan}
  {existing : PartTable Receipt}

/-- What may come of a request at a client, and of the store behind it. -/
inductive Relayed (id : UploadId) (request : Request) (before : Store) :
    Store → Response Phase request → Prop where
  /-- The request waits. -/
  | delayed {after : Store} {phase : Phase}
      (apart : before.Elsewhere id after) :
      Relayed id request before after (.waiting phase)
  /-- The client refuses the request. -/
  | refused {after : Store} {failure : Failure}
      (apart : before.Elsewhere id after) :
      Relayed id request before after (.finished (.error failure))
  /-- The store serves the request. -/
  | served {middle after : Store}
      {answer : Except Failure request.Answer}
      (apart : before.Elsewhere id middle)
      (serves : middle.serve request = (after, .ofExcept answer)) :
      Relayed id request before after (.finished answer)
  /-- The store breaks off. -/
  | broken {middle after : Store} {panic : request.Breakage}
      {phase : Phase} (apart : before.Elsewhere id middle)
      (breaks : middle.serve request = (after, .panicked panic)) :
      Relayed id request before after (.panicked panic phase)

/-- What a client tells of a request that its store has served. -/
def Response.ofConclusion {request : Request} (phase : Phase) :
    request.Conclusion → Response Phase request
  | .ok answer => .finished (.ok answer)
  | .error failure => .finished (.error failure)
  | .panicked panic => .panicked panic phase

/-- A client may hand a request to its store at once. -/
theorem Relayed.of_serve (id : UploadId) (request : Request)
    (store : Store) (phase : Phase) :
    Relayed id request store (store.serve request).1
      (.ofConclusion phase (store.serve request).2) := by
  rcases serves : store.serve request with ⟨after, conclusion⟩
  cases conclusion with
  | ok answer => exact .served .refl serves
  | error failure => exact .served .refl serves
  | panicked panic => exact .broken .refl serves

/-- Holds of a host whose client relays to a store. -/
structure Host.Relays (host : Host World Content Phase)
    (store : World → Store) (id : UploadId) : Prop where
  polls : ∀ world session request phase,
    let reply := host.poll world session request phase
    Relayed id request (store world) (store reply.world) reply.outcome
  pulls : ∀ world session content,
    (store world).Elsewhere id
      (store (host.pull world session content).world)

/-- A request that is answered with a failure changes nothing. -/
theorem Store.eq_of_serve_eq_error {store after : Store}
    {request : Request} {failure : Failure}
    (serves : store.serve request = (after, .error failure)) :
    after = store := by
  cases served_of_eq serves
  rfl

/-- A request that breaks off changes nothing. -/
theorem Store.eq_of_serve_eq_panicked {store after : Store}
    {request : Request} {panic : request.Breakage}
    (breaks : store.serve request = (after, .panicked panic)) :
    after = store := by
  cases served_of_eq breaks
  rfl

/-- An upload that is aborted is no longer in progress. -/
theorem Store.upload?_of_abort {store after : Store} {aim : Target}
    {done : Unit} (serves : store.serve (.abort aim) = (after, .ok done)) :
    after.upload? aim.id = none := by
  cases served_of_eq serves with
  | aborted => rw [upload?_removeUpload, if_pos rfl]

/-- An upload that is completed is no longer in progress. -/
theorem Store.upload?_of_complete {store after : Store} {aim : Target}
    {receipts : List Receipt} {completion : Completion}
    (serves :
      store.serve (.complete aim receipts) = (after, .ok completion)) :
    after.upload? aim.id = none := by
  cases served_of_eq serves with
  | completed => rw [upload?_putObject, upload?_removeUpload, if_pos rfl]

/-- As long as a request does not succeed, only other uploads are served. -/
theorem Relayed.apart {id : UploadId} {request : Request}
    {before after : Store} {response : Response Phase request}
    (relayed : Relayed id request before after response)
    (unserved : ∀ answer, response ≠ .finished (.ok answer)) :
    before.Elsewhere id after := by
  cases relayed with
  | delayed apart => exact apart
  | refused apart => exact apart
  | @served middle _ answer apart serves =>
      cases answer with
      | ok answer => exact absurd rfl (unserved answer)
      | error failure =>
          rw [Store.eq_of_serve_eq_error serves]
          exact apart
  | broken apart breaks =>
      rw [Store.eq_of_serve_eq_panicked breaks]
      exact apart

namespace Host.Relays

variable {host : Host World Content Phase} {store : World → Store}
  {id : UploadId} (relays : host.Relays store id)

include relays

/-- A request that succeeds was served. -/
theorem served (place : Place (Recorded World) Content (Marked Phase))
    {request : Request} {marked : Marked Phase} {answer : request.Answer}
    (answered :
      (host.recording.poll place.world place.upload.session request
        marked).outcome = .finished (.ok answer)) :
    ∃ middle, (store place.world.world).Elsewhere id middle ∧
      middle.serve request =
        (store (place.hear (host.recording.poll place.world
          place.upload.session request marked)).world.world,
          .ok answer) := by
  have relayed := relays.polls place.world.world place.upload.session
    request marked.phase
  dsimp only at relayed
  rw [Response.eq_of_mark_eq_finished answered] at relayed
  rw [Place.world_hear_poll]
  cases relayed with
  | served apart serves => exact ⟨_, apart, serves⟩

/--
While a request does not succeed, only other uploads are served, and no
receipt is recorded.
-/
theorem unserved (place : Place (Recorded World) Content (Marked Phase))
    {request : Request} {marked : Marked Phase}
    {response : Response (Marked Phase) request}
    (answered :
      (host.recording.poll place.world place.upload.session request
        marked).outcome = response)
    (fails : ∀ answer, response ≠ .finished (.ok answer)) :
    let after := place.hear (host.recording.poll place.world
      place.upload.session request marked)
    (store place.world.world).Elsewhere id (store after.world.world) ∧
      after.upload.session.progress = place.upload.session.progress := by
  refine ⟨?_, Session.progress_of_account (place.heard _).account⟩
  rw [Place.world_hear_poll]
  refine (relays.polls place.world.world place.upload.session request
    marked.phase).apart fun answer served => ?_
  exact fails answer (answered.symm.trans (congrArg Response.mark served))

/-- While the source is asked, only other uploads are served. -/
theorem apart_polled
    {place later : Place (Recorded World) Content (Marked Phase)}
    {cutter : Cutter Content} {outcome : Cutter.Outcome}
    (polled :
      place.upload.cutter.poll host.recording.source place =
        (later, cutter, outcome)) :
    (store place.world.world).Elsewhere id
      (store later.world.world) := by
  refine Cutter.polled_keeps_world
    (fun recorded : Recorded World =>
      (store place.world.world).Elsewhere id (store recorded.world))
    polled .refl ?_
  intro recorded session content apart
  rw [show (host.recording.pull recorded session content).world.world = _
    from Recorded.world_witness _ _ _ _ _]
  exact apart.trans (relays.pulls recorded.world session content)

end Host.Relays

/-! ## Steps -/

/-- An upload that has failed stays so. -/
theorem Step.failed {host : Host World Content Phase}
    {place later : Place World Content Phase} {outcome : Option Outcome}
    (sound : place.upload.Sound target plan existing)
    (unresolved : place.upload.resolved = false)
    (step : Step host place later outcome)
    (failed : place.upload.session.verdict = .failed) :
    later.upload.session.verdict = .failed := by
  obtain ⟨phase, begun⟩ :=
    Option.isSome_iff_exists.mp (sound.begun unresolved failed)
  rcases step.of_begun begun with ⟨_, _, rfl, _⟩ | ⟨_, _, rfl, _⟩
  · exact (sound.begun_askAbort begun).2
  · exact (sound.begun_askAbort begun).2

/-- What a step makes of the store, and of the receipts of its upload. -/
inductive Step.Serves (store : World → Store) (target : Target)
    (place later : Place (Recorded World) Content (Marked Phase)) :
    Prop where
  /-- Nothing is served for the upload. -/
  | apart
      (apart : (store place.world.world).Elsewhere target.id
        (store later.world.world))
      (progress :
        later.upload.session.progress = place.upload.session.progress)
  /-- A part of the upload is taken, and its receipt is recorded. -/
  | taken {middle : Store} {flight : Flight (Marked Phase)}
      {receipt : Receipt}
      (apart : (store place.world.world).Elsewhere target.id middle)
      (flying : flight ∈ place.upload.pool.flights)
      (serves :
        middle.serve (.part target flight.number flight.body) =
          (store later.world.world, .ok receipt))
      (progress : later.upload.session.progress =
        place.upload.session.progress.record receipt)
  /-- The upload is completed or aborted. -/
  | ended {middle : Store} {request : Request}
      (apart : (store place.world.world).Elsewhere target.id middle)
      (serves : store later.world.world = (middle.serve request).1)
      (bare : ∀ {aim number body}, request ≠ .part aim number body)
      (gone : (store later.world.world).upload? target.id = none)
      (decided : later.upload.session.completed = true ∨
        later.upload.session.verdict = .failed)
      (progress :
        later.upload.session.progress = place.upload.session.progress)

/-- Every step comes to one of these. -/
theorem Step.serves {host : Host World Content Phase}
    {store : World → Store}
    {place later : Place (Recorded World) Content (Marked Phase)}
    (relays : host.Relays store target.id)
    (sound : place.upload.Sound target plan existing)
    {outcome : Option Outcome}
    (step : Step host.recording place later outcome) :
    Step.Serves store target place later := by
  have aimed := sound.aimed
  have failed {upload : Upload Content (Marked Phase)} (failure : Failure) :
      (upload.fail host.recording failure).1.session.progress =
        upload.session.progress :=
    Session.progress_of_account (upload.account_fail host.recording failure)
  have part {flight : Flight (Marked Phase)}
      (queued : List (Flight (Marked Phase)))
      {response : Response (Marked Phase)
        (.part place.upload.session.target flight.number flight.body)}
      (answered : (host.recording.askPart place flight).outcome = response)
      (fails : ∀ answer, response ≠ .finished (.ok answer)) :
      let after := place.heardPart host.recording flight queued
      (store place.world.world).Elsewhere target.id
          (store after.world.world) ∧
        after.upload.session.progress =
          place.upload.session.progress :=
    relays.unserved (place.become
      (place.upload.withPool (place.upload.pool.polling flight queued)))
      answered fails
  have cut {after : Place (Recorded World) Content (Marked Phase)}
      {cutter : Cutter Content} {outcome : Cutter.Outcome}
      (polled :
        place.upload.cutter.poll host.recording.source place =
          (after, cutter, outcome)) :
      (store place.world.world).Elsewhere target.id
          (store after.world.world) ∧
        after.upload.session.progress =
          place.upload.session.progress :=
    ⟨relays.apart_polled polled,
      Session.progress_of_account
        (Cutter.polled host.recording polled).heard.account⟩
  cases step with
  | withdrawn => exact .apart .refl rfl
  | @waiting _ queued _ _ _ _ answer =>
      have heard := part queued answer nofun
      exact .apart heard.1 heard.2
  | @recalled _ queued _ _ _ _ answer =>
      have heard := part queued answer nofun
      exact .apart heard.1 heard.2
  | @received flight queued receipt _ front _ answer =>
      let polling := place.become
        (place.upload.withPool (place.upload.pool.polling flight queued))
      obtain ⟨middle, apart, serves⟩ := relays.served polling answer
      have heard := polling.heard (host.recording.askPart place flight)
      refine .taken apart (Pool.mem_flights_of_front front) ?_
        (congrArg (·.record receipt)
          (Session.progress_of_account heard.account))
      rw [← aimed]
      exact serves
  | @refused _ queued _ _ _ _ _ answer left =>
      subst left
      have heard := part queued answer nofun
      exact .apart heard.1 ((failed _).trans heard.2)
  | resting => exact .apart .refl rfl
  | starved may polled =>
      have after := cut polled
      exact .apart after.1 after.2
  | cut may polled =>
      have after := cut polled
      refine .apart after.1 (Eq.trans ?_ after.2)
      exact Session.progress_of_account
        (Upload.account_sendPart host.recording _ _)
  | spoiled may polled =>
      have after := cut polled
      exact .apart after.1 ((failed _).trans after.2)
  | exhausted may polled =>
      have after := cut polled
      exact .apart after.1 after.2
  | snapped may polled =>
      have after := cut polled
      exact .apart after.1 after.2
  | closes => exact .apart .refl rfl
  | stumbles => exact .apart .refl rfl
  | parks => exact .apart .refl rfl
  | unclosed => exact .apart .refl rfl
  | closing unaborted closed wanted answer
  | reopened unaborted closed wanted answer
  | collapsed unaborted closed wanted answer =>
      have heard := relays.unserved place answer nofun
      exact .apart heard.1 heard.2
  | rejected unaborted closed wanted answer left =>
      subst left
      have heard := relays.unserved place answer nofun
      exact .apart heard.1 ((failed _).trans heard.2)
  | @completes closing _ _ _ _ answer =>
      obtain ⟨middle, apart, serves⟩ := relays.served place answer
      have heard := place.heard (host.recording.askClosing place closing)
      have same := Session.progress_of_account heard.account
      refine .ended apart (congrArg Prod.fst serves).symm nofun ?_
        (.inl rfl) same
      rw [← aimed]
      exact Store.upload?_of_complete serves
  | aborting begun answer =>
      have heard := relays.unserved place answer nofun
      exact .apart heard.1 heard.2
  | @aborted phase answer begun answered =>
      cases answer with
      | error failure =>
          have heard := relays.unserved place answered nofun
          exact .apart heard.1 heard.2
      | ok done =>
          obtain ⟨middle, apart, serves⟩ := relays.served place answered
          have heard := place.heard (host.recording.askAbort place phase)
          have same := Session.progress_of_account heard.account
          refine .ended apart (congrArg Prod.fst serves).symm nofun ?_
            (.inr (sound.begun_askAbort begun).2) same
          rw [← aimed]
          exact Store.upload?_of_abort serves

/-! ## Runs -/

/-- A run during which the store serves other uploads between the moves. -/
inductive Place.Runs (host : Host World Content Phase)
    (store : World → Store) (id : UploadId)
    (place : Place (Recorded World) Content (Marked Phase)) :
    Place (Recorded World) Content (Marked Phase) → Prop where
  | rest : Runs host store id place place
  | move {before : Place (Recorded World) Content (Marked Phase)}
      (runs : Runs host store id place before)
      (move : Move World Content)
      (apart : ∀ {change}, move = .change change →
        (store before.world.world).Elsewhere id
          (store (change before.world.world))) :
      Runs host store id place (before.record host move)

/-- A run is a sequence of moves. -/
theorem Place.Runs.replay {host : Host World Content Phase}
    {store : World → Store} {id : UploadId}
    {place later : Place (Recorded World) Content (Marked Phase)}
    (runs : place.Runs host store id later) :
    ∃ moves, later = place.replay host moves := by
  induction runs with
  | rest => exact ⟨[], rfl⟩
  | move runs move apart ih =>
      obtain ⟨moves, rfl⟩ := ih
      refine ⟨moves ++ [move], ?_⟩
      rw [Place.replay, Place.replay, List.foldl_append]
      rfl

/-- Holds of surroundings whose store has served others meanwhile. -/
abbrev Store.Aside (store : World → Store) (id : UploadId)
    (before after : World) : Prop :=
  (store before).Elsewhere id (store after)

/-- What lasts while the store serves others lasts in every such run. -/
theorem Lasts.runs {host : Host World Content Phase}
    {store : World → Store} {id : UploadId}
    {Kept : Place (Recorded World) Content (Marked Phase) → Prop}
    {place later : Place (Recorded World) Content (Marked Phase)}
    (lasts : Lasts host (Store.Aside store id) Kept) (kept : Kept place)
    (runs : place.Runs host store id later) : Kept later := by
  induction runs with
  | rest => exact kept
  | move runs move apart ih => exact lasts.record ih apart

end Multipart
