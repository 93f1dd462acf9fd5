import Multipart.Proofs.Aborting
import Multipart.Proofs.Completing
import Multipart.Proofs.Settling.Stocked

/-!
# Result, state and store agree

What an upload resolves with, the state that it is seen in and what the store
has of it go together: an upload that completes is gone from the store, one
that is paused can be resumed with all that it counts as done, and one that
fails was aborted once.  The main statement is `settles`.
-/

namespace Multipart

variable {World Content Phase : Type} {target : Target} {plan : Plan}
  {existing : PartTable Receipt} {host : Host World Content Phase}
  {store : World → Store} {active : Prop} {capacity : Option Nat}
  {place later : Place (Recorded World) Content (Marked Phase)}

/-! ## Every run -/

/-- What is known between polls of an upload and of the store behind it. -/
structure Backed (store : World → Store) (target : Target) (plan : Plan)
    (existing : PartTable Receipt) (active : Prop)
    (place : Place (Recorded World) Content (Marked Phase)) : Prop where
  sound : place.upload.Sound target plan existing
  seals : place.upload.Seals place.world.facts
  /-- The store has what the upload counts, if it had that to begin with. -/
  stocked : active → Stocked store target place

namespace Backed

theorem step (relays : host.Relays store target.id)
    (backed : Backed store target plan existing active place)
    (unresolved : place.upload.resolved = false)
    {outcome : Option Outcome}
    (step : Step host.recording place later outcome) :
    Backed store target plan existing active later where
  sound := backed.sound.step unresolved step
  seals := backed.seals.step backed.sound step
  stocked there :=
    (backed.stocked there).step relays backed.sound unresolved step

theorem activate (backed : Backed store target plan existing active place) :
    Backed store target plan existing active place.activate where
  sound := backed.sound.activate
  seals := ⟨backed.seals.sent, backed.seals.cancelled⟩
  stocked := backed.stocked

theorem note (backed : Backed store target plan existing active place)
    {event : Event} (idle : event.isFact = false) :
    Backed store target plan existing active (place.note event) where
  sound := backed.sound
  seals := by
    have facts : (place.note event).world.facts = place.world.facts :=
      Recorded.facts_note_of_idle _ _ idle
    rw [facts]
    exact backed.seals
  stocked := backed.stocked

theorem heard (backed : Backed store target plan existing active place)
    {upload : Upload Content (Marked Phase)}
    (heard : Upload.Heard place.upload upload) :
    Backed store target plan existing active (place.become upload) where
  sound := backed.sound.heard heard
  seals := backed.seals.heard heard
  stocked there judged going := by
    have before := backed.stocked there
      (fun failed => by
        cases heard with
        | moved => exact judged failed
        | paused pool running => cases running.symm.trans failed)
      (heard.completed.symm.trans going)
    change (store place.world.world).Stocks _ upload.session.progress
    rw [heard.session]
    exact before

theorem lasts (relays : host.Relays store target.id) :
    Lasts host (Store.Aside store target.id)
      (Backed store target plan existing active) where
  activate backed := backed.activate
  step backed unresolved step := backed.step relays unresolved step
  note backed idle := backed.note idle
  heard backed heard := backed.heard heard
  change backed apart :=
    { sound := backed.sound
      seals := backed.seals
      stocked := fun there judged going =>
        (backed.stocked there judged going).elsewhere apart }
  feed feed backed :=
    { sound := backed.sound.move host.recording (.feed feed)
      seals := ⟨backed.seals.sent, backed.seals.cancelled⟩
      stocked := backed.stocked }

/-- A run leaves the store with what the upload counts. -/
theorem runs (relays : host.Relays store target.id)
    (backed : Backed store target plan existing active place)
    (runs : place.Runs host store target.id later) :
    Backed store target plan existing active later :=
  (lasts relays).runs backed runs

end Backed

/-! ## How an upload ends -/

namespace Place

/-- How things stand when an upload has completed. -/
structure EndsCompleted (store : World → Store) (target : Target)
    (place : Place (Recorded World) Content (Marked Phase)) : Prop where
  state : place.upload.session.state = .completed
  /-- One request to complete the upload was sent. -/
  sent : place.world.history.events.countP Event.closes = 1
  unaborted : place.world.history.events.countP Event.aborts = 0
  /-- The upload is no longer in progress. -/
  gone : (store place.world.world).upload? target.id = none

/--
How things stand when an upload has ended paused.  Only a resumed upload for
which the store was not asked may not have been in progress before.
-/
structure EndsPaused (store : World → Store) (target : Target)
    (active : Prop) (failure : Failure)
    (place : Place (Recorded World) Content (Marked Phase)) : Prop where
  parks : failure = .paused target.id
  state : place.upload.session.state = .paused
  unaborted : place.world.history.events.countP Event.aborts = 0
  /-- The upload is in progress, with every part that is counted as done. -/
  stocks : active →
    (store place.world.world).Stocks target.id
      place.upload.session.progress

/-- How things stand when an upload has failed. -/
structure EndsFailed (store : World → Store) (target : Target)
    (failure : Failure)
    (place : Place (Recorded World) Content (Marked Phase)) : Prop where
  state : place.upload.session.state = .failed
  /-- One abort was sent, -/
  sent : place.world.history.events.countP Event.aborts = 1
  /-- and the upload was told of the failure before that. -/
  cause : ∃ (before : History) (session : Session) (after : History),
    place.world.history = before ++ ⟨session, .sent (.abort target)⟩ :: after ∧
      before.cause? session = some failure
  /-- No request to complete the upload has succeeded. -/
  lost : ¬ place.world.history.Won
  /-- The upload is no longer in progress if the abort has succeeded. -/
  ends : ∃ (before : History) (session : Session)
      (answer : Except Failure Unit),
    place.world.history = before ++
        [⟨session, .answered (.abort target) answer⟩,
          ⟨session, .returned (.resolved (.error failure))⟩] ∧
      (answer = .ok () →
        (store place.world.world).upload? target.id = none)

end Place

/-- What is known in the middle of the poll in which an upload ends. -/
structure Settling (store : World → Store) (target : Target) (plan : Plan)
    (existing : PartTable Receipt) (active : Prop) (capacity : Option Nat)
    (place : Place (Recorded World) Content (Marked Phase)) : Prop where
  backed : Backed store target plan existing active place
  accounted : Accounted target plan existing place
  told : Told target.id place.upload.session place.world.history
  fated : Fated target plan existing capacity place

/-- An upload that goes on has sent no abort when the poll returns. -/
theorem Going.countP_aborts (going : Going capacity place)
    (outcome : Outcome) :
    (place.note (.returned outcome)).world.history.events.countP
      Event.aborts = 0 := by
  have unaborted :=
    History.countP_aborts (History.unaborted_of_always going.always)
  change (History.events (place.world.history ++ [_])).countP _ = 0
  rw [History.events] at unaborted ⊢
  rw [List.map_append, List.countP_append, unaborted]
  rfl

namespace Settling

theorem step (relays : host.Relays store target.id)
    (settling : Settling store target plan existing active capacity place)
    (unresolved : place.upload.resolved = false)
    (step : Step host.recording place later none) :
    Settling store target plan existing active capacity later where
  backed := settling.backed.step relays unresolved step
  accounted := settling.accounted.step relays.isNumbered unresolved step
  told := settling.told.step step nofun
  fated := settling.fated.step unresolved step

/-- An upload that resolves has not completed before. -/
theorem completed
    (settling : Settling store target plan existing active capacity place)
    (unresolved : place.upload.resolved = false) {outcome : Option Outcome}
    (step : Step host.recording place later outcome)
    (losing : ∀ completion, outcome ≠ some (.resolved (.ok completion))) :
    later.upload.session.completed = false := by
  have same := congrArg Prod.snd (step.fixture losing)
  change later.upload.session.completed = place.upload.session.completed
    at same
  rw [same]
  exact settling.backed.sound.uncompleted unresolved

/-- An upload that is being completed goes on. -/
theorem going_of_closing
    (settling : Settling store target plan existing active capacity place)
    {closing : Closing (Marked Phase)}
    (closed : place.upload.closing = some closing) :
    Going capacity place := by
  have judged := (settling.backed.sound.closing closing closed).judged
  rcases settling.fated.course with
    going | ⟨failure, due⟩ | ⟨failure, dying⟩
  · exact going
  · exact absurd due.judged judged
  · exact absurd dying.judged judged

/-- An upload that completes has sent one request for it. -/
theorem closes_once (numbered : host.IsNumbered)
    (settling : Settling store target plan existing active capacity place)
    (unresolved : place.upload.resolved = false)
    {closing : Closing (Marked Phase)} {completion : Completion}
    (done :
      Step.Completes host.recording place later closing completion)
    (step : Step host.recording place later
      (some (.resolved (.ok completion)))) :
    later.world.history.events.countP Event.closes = 1 := by
  have once :=
    (settling.accounted.step numbered unresolved step).accounts.once
  have sent := settling.backed.seals.pos_of_polled host done.closed
  have world : later.world =
      (place.hear (host.recording.askClosing place closing)).world := by
    rw [done.reached]
    rfl
  rw [← History.countP_facts fun event closes => by
    obtain ⟨aim, receipts, rfl⟩ := Event.eq_of_closes closes
    rfl]
  refine Nat.le_antisymm once ?_
  change 0 < later.world.facts.countP Event.closes
  rw [world]
  exact sent

/-- An upload that resolves with an object has completed. -/
theorem endsCompleted (relays : host.Relays store target.id)
    (settling : Settling store target plan existing active capacity place)
    (unresolved : place.upload.resolved = false) {completion : Completion}
    (step : Step host.recording place later
      (some (.resolved (.ok completion)))) :
    (later.note (.returned (.resolved (.ok completion)))).EndsCompleted
      store target := by
  rcases step.completes_of_ok with ⟨closing, done⟩
  have going := settling.going_of_closing done.closed
  constructor
  · change later.upload.session.state = .completed
    rw [done.reached]
    rfl
  · have once :=
      settling.closes_once relays.isNumbered unresolved done step
    rw [History.events, List.countP_map] at once ⊢
    exact (List.countP_append ..).trans once
  · rcases going.step settling.fated.regular unresolved step with
      still | ⟨goesOn, _⟩
    · exact still.countP_aborts _
    · cases goesOn
  · obtain ⟨middle, apart, serves⟩ := relays.served place done.answer
    change (store later.world.world).upload? target.id = none
    rw [done.reached, ← settling.backed.sound.aimed]
    exact Store.upload?_of_complete serves

/-- An upload that was not aborted resolves with a failure as paused. -/
theorem endsPaused (relays : host.Relays store target.id)
    (settling : Settling store target plan existing active capacity place)
    (unresolved : place.upload.resolved = false)
    (going : Going capacity place) {failure : Failure}
    (step : Step host.recording place later
      (some (.resolved (.error failure)))) :
    (later.note (.returned (.resolved (.error failure)))).EndsPaused
      store target active failure := by
  have backed := settling.backed
  have still : Going capacity later :=
    (going.step settling.fated.regular unresolved step).resolve_right
      fun due => by cases due.1
  have paused : later.upload.session.verdict = .paused := by
    cases verdict : later.upload.session.verdict with
    | paused => rfl
    | failed => exact absurd verdict still.judged
    | running =>
        exact absurd verdict
          (backed.seals.judged_of_error backed.sound step)
  have going' : later.upload.session.completed = false :=
    settling.completed unresolved step fun _ same => by cases same
  constructor
  · exact Outcome.parks_of_step backed.sound step paused
      fun _ same => by cases same
  · change later.upload.session.state = .paused
    simp [Session.state, paused, going']
  · exact still.countP_aborts _
  · intro there
    have stocked :=
      (backed.stocked there).step relays backed.sound unresolved step
    refine stocked (fun failed => ?_) going'
    cases paused.symm.trans failed

/-- How the poll ends in which an abort has finished. -/
theorem answer_of_aborted (relays : host.Relays store target.id)
    (aimed : place.upload.session.target = target)
    {marked : Marked Phase} (begun : place.upload.abort = some marked)
    {kept failure : Failure} (keeps : place.upload.failure = some kept)
    (step : Step host.recording place later
      (some (.resolved (.error failure)))) :
    failure = kept ∧
      ∃ answer,
        later.world.history.getLast? =
            some ⟨later.upload.session, .answered (.abort target) answer⟩ ∧
          (answer = .ok () →
            (store later.world.world).upload? target.id = none) := by
  subst aimed
  let heard := place.hear (host.recording.askAbort place marked)
  rcases step.of_begun begun with
    ⟨_, _, _, waits⟩ | ⟨answer, answered, rfl, last⟩
  · cases waits
  have told : heard.upload.failure = some kept :=
    (place.heard (host.recording.askAbort place marked)).failure.trans keeps
  refine ⟨?_, answer, place.getLast?_hear_poll host answered, ?_⟩
  · have same : failure = heard.upload.failure.getD _ :=
      Except.error.inj (Outcome.resolved.inj (Option.some.inj last))
    rw [same, told, Option.getD_some]
  · rintro rfl
    obtain ⟨middle, apart, serves⟩ := relays.served place answered
    exact Store.upload?_of_abort serves

/-- An upload that was aborted resolves with the failure it was told of. -/
theorem endsFailed (relays : host.Relays store target.id)
    (settling : Settling store target plan existing active capacity place)
    (unresolved : place.upload.resolved = false)
    {marked : Marked Phase} (begun : place.upload.abort = some marked)
    {kept failure : Failure} (keeps : place.upload.failure = some kept)
    (step : Step host.recording place later
      (some (.resolved (.error failure))))
    (dying : Dying target capacity kept
      (later.note (.returned (.resolved (.error failure))))) :
    (later.note (.returned (.resolved (.error failure)))).EndsFailed
      store target failure := by
  have aimed := settling.backed.sound.aimed
  obtain ⟨rfl, answer, last, gone⟩ :=
    answer_of_aborted relays aimed begun keeps step
  have open' : later.upload.session.completed = false :=
    settling.completed unresolved step nofun
  constructor
  · have judged : later.upload.session.verdict = .failed := dying.judged
    change later.upload.session.state = .failed
    simp [Session.state, judged, open']
  · exact dying.history.countP_aborts
  · exact dying.history.cause
  · have told := settling.told.step step nofun
    intro won
    rcases History.won_concat.mp won with before | wins
    · cases open'.symm.trans (told.won.mp before)
    · cases wins
  · obtain ⟨before, split⟩ := List.getLast?_eq_some_iff.mp last
    refine ⟨before, later.upload.session, answer, ?_, gone⟩
    change later.world.history ++ [_] = _
    rw [split, List.append_assoc]
    rfl

/-- An upload that resolves with a failure was paused, or was aborted. -/
theorem ends (relays : host.Relays store target.id)
    (settling : Settling store target plan existing active capacity place)
    (unresolved : place.upload.resolved = false) {failure : Failure}
    (step : Step host.recording place later
      (some (.resolved (.error failure)))) :
    let after := later.note (.returned (.resolved (.error failure)))
    after.EndsPaused store target active failure ∨
      after.EndsFailed store target failure := by
  have sound := settling.backed.sound
  rcases settling.fated.course with
    going | ⟨kept, due⟩ | ⟨kept, dying⟩
  · exact .inl (settling.endsPaused relays unresolved going step)
  · right
    obtain ⟨marked, begun, _⟩ := due.unsent
    obtain ⟨_, same, dies⟩ := Dying.of_due due sound.aimed step
    obtain rfl := Option.some.inj same
    exact settling.endsFailed relays unresolved begun due.kept step dies
  · right
    obtain ⟨marked, begun⟩ :=
      Option.isSome_iff_exists.mp (sound.begun unresolved dying.judged)
    obtain ⟨_, same, dies⟩ := dying.step sound unresolved step
    obtain rfl := Option.some.inj same
    exact settling.endsFailed relays unresolved begun
      (dying.awaits marked begun).2 step dies

end Settling

/-- An upload that is obtained is backed by the store from the beginning. -/
theorem Backed.begin {uploader : Uploader} {length : UInt64} {world : World}
    {token : Option Checkpoint} {given : List Receipt}
    (obtains :
      uploader.Obtains length target plan (store world) token given)
    (source : Content) :
    Backed store target plan
      (Progress.ofReceipts
        (given.filter fun receipt =>
          plan.contains receipt.number)).existing
      (Checkpoint.Asks token ∨ (store world).upload? target.id ≠ none)
      (Place.begin world (uploader.upload target plan given source) :
        Place (Recorded World) Content (Marked Phase)) where
  sound := Upload.sound_ofPlan target plan given uploader.limit source
  seals := .of_unclosed rfl
  stocked there _ _ := obtains.stocks there

/--
The result of an upload, its state and the store agree, however it was
obtained and whatever its client makes of its requests.  An upload that
resolves with an object has completed, was completed once and never aborted,
and is no longer in progress.  One that resolves as paused is paused and was
not aborted; and the store has what it counts as done, unless it was resumed
without asking and was not in progress even then.  Any other failure is the
one that the upload was told of and aborted for, once.
-/
theorem settles (relays : host.Relays store target.id)
    {uploader : Uploader} {length : UInt64} {world : World}
    {token : Option Checkpoint} {given : List Receipt}
    (obtains :
      uploader.Obtains length target plan (store world) token given)
    {source : Content}
    (runs :
      (Place.begin world (uploader.upload target plan given source)).Runs
        host store target.id place)
    {result : Except Failure Completion}
    (resolved : (place.poll host.recording).2 = .resolved result) :
    let after := place.record host .poll
    match result with
    | .ok _ => after.EndsCompleted store target
    | .error failure =>
      after.EndsPaused store target
          (Checkpoint.Asks token ∨ (store world).upload? target.id ≠ none)
          failure ∨
        after.EndsFailed store target failure := by
  intro after
  have backed := (Backed.begin obtains source).runs relays runs
  obtain ⟨moves, same⟩ := runs.replay
  have orderly : Orderly.Kept target plan _ place :=
    same ▸ Orderly.Kept.replay host relays.isNumbered
      ⟨.begin world target plan given uploader.limit source,
        History.always_nil⟩ moves
  have told : Told.Kept target plan _ place :=
    same ▸ (Told.kept_begin world target plan given uploader.limit
      source).replay host moves
  have fated : Fated.Kept target plan _ _ place :=
    same ▸ (Fated.keeps host).replay
      (Fated.kept_begin world target plan given uploader.limit source) moves
  have going : place.upload.resolved = false := by
    cases ended : place.upload.resolved with
    | false => rfl
    | true =>
        rw [Place.poll_of_resolved host.recording ended] at resolved
        cases resolved
  obtain ⟨middle, settling, unresolved, last⟩ :=
    Place.poll_keeps (Settling store target plan _ _ _)
      (fun settling unresolved step => settling.step relays unresolved step)
      going
      { backed := backed.activate
        accounted := orderly.accounted.activate
        told := told.told.congr rfl rfl rfl
        fated := fated.activate }
  have reached : after =
      (place.poll host.recording).1.note (.returned (.resolved result)) := by
    rw [← resolved]
    rfl
  rw [resolved] at last
  rw [reached]
  cases result with
  | ok completion => exact settling.endsCompleted relays unresolved last
  | error failure => exact settling.ends relays unresolved last

/-- The failure that an outcome tells, if it tells one. -/
def Outcome.failure? : Outcome → Option Failure
  | .resolved (.error failure) => some failure
  | _ => none

theorem Outcome.eq_of_failure? {outcome : Outcome} {failure : Failure}
    (tells : outcome.failure? = some failure) :
    outcome = .resolved (.error failure) := by
  unfold failure? at tells
  split at tells
  · rw [Option.some.inj tells]
  · cases tells

/-- A token for the upload in two parts on the direct host. -/
def Host.directToken (partsDone : UInt32) : Checkpoint where
  id := ⟨"upload-1"⟩
  partSize := 2
  totalParts := 2
  partsDone

/-- The target of that upload. -/
def Host.directTarget : Target := ⟨⟨"upload-1"⟩, .ofPair "bucket" "key"⟩

/-- The store after one more request for that upload. -/
def Host.directStore (request : Request) : Store :=
  ((({} : Store).serve (.create (.ofPair "bucket" "key"))).1.serve
    request).1

/-- The receipt of its first part. -/
def Host.directReceipt : Receipt where
  number := .first
  tag := ⟨"etag-1"⟩
  size := 2

/-- That upload, resumed and paused before it is polled. -/
def Host.resumedPlace (store : Store) (listed : List Receipt) :
    Place (Recorded Store) Bytes (Marked Unit) :=
  (Place.begin store
    (({} : Uploader).upload directTarget (.ofLength 3 2) listed
      [1, 2, 3])).record direct .pause

theorem Host.isServed_directStore (request : Request) :
    (directStore request).IsServed :=
  ((Store.isServed_empty (.counted "")).serve _).serve request

/-- The upload is resumed from a store that has its first part. -/
theorem Host.obtains_held :
    ({} : Uploader).Obtains 3 directTarget (.ofLength 3 2)
      (directStore (.part directTarget .first [1, 2]))
      (some (directToken 1)) [directReceipt] :=
  .resumed (isServed_directStore _) rfl rfl
    (.asked rfl .refl rfl)

/--
On the direct host the upload is completed by its first poll; and when it is
resumed with one part and paused, its next poll leaves that part in the store.
-/
theorem settles_direct :
    (Host.directPlace.record Host.direct .poll).EndsCompleted (·)
        Host.directTarget ∧
      let store :=
        Host.directStore (.part Host.directTarget .first [1, 2])
      ((Host.resumedPlace store [Host.directReceipt]).record Host.direct
        .poll).EndsPaused (·) Host.directTarget True
          (.paused Host.directTarget.id) := by
  constructor
  · have resolved :
        (Host.directPlace.poll Host.direct.recording).2 =
          .resolved (.ok
            { location := .ofPair "bucket" "key", tag := ⟨"etag-3"⟩ }) :=
      Outcome.eq_of_object? (by decide +kernel)
    exact settles (Host.relays_direct _) (.started Host.starts_direct)
      .rest resolved
  · intro store
    let place := Host.resumedPlace store [Host.directReceipt]
    have resolved :
        (place.poll Host.direct.recording).2 =
          .resolved (.error (.paused Host.directTarget.id)) :=
      Outcome.eq_of_failure? (by decide +kernel)
    have state :
        (place.record Host.direct .poll).upload.session.state = .paused := by
      decide +kernel
    have ended := settles (Host.relays_direct _) Host.obtains_held
      (.move .rest .pause nofun) resolved
    rcases ended with paused | failed
    · exact ⟨paused.parks, paused.state, paused.unaborted, fun _ =>
        paused.stocks (.inl fun checkpoint same => by cases same; decide)⟩
    · cases state.symm.trans failed.state

/--
An upload that is resumed without asking what there is may end paused without
being in progress: here it was aborted before.
-/
theorem parked_unasked :
    let store := Host.directStore (.abort Host.directTarget)
    let place := Host.resumedPlace store []
    ({} : Uploader).Obtains 3 Host.directTarget (.ofLength 3 2) store
        (some (Host.directToken 0)) [] ∧
      Host.direct.Relays (·) Host.directTarget.id ∧
      (Place.begin store
        (({} : Uploader).upload Host.directTarget (.ofLength 3 2) []
          [1, 2, 3])).Runs Host.direct (·) Host.directTarget.id place ∧
      (place.poll Host.direct.recording).2 =
        .resolved (.error (.paused Host.directTarget.id)) ∧
      (place.record Host.direct .poll).world.world.upload?
        Host.directTarget.id = none := by
  intro store place
  refine ⟨?_, Host.relays_direct _, ?_, ?_, ?_⟩
  · exact .resumed (Host.isServed_directStore _) rfl rfl (.skipped rfl .refl)
  · exact .move .rest .pause nofun
  · exact Outcome.eq_of_failure? (by decide +kernel)
  · decide +kernel

end Multipart
