import Multipart.Proofs.Parking
import Multipart.Proofs.Upload.Keeping
import Multipart.Proofs.Upload.Sound
import Multipart.Uploader

/-!
# Uploads with a limit

An uploader may limit how many part requests of an upload are in flight at
once.  Whatever its host does, an upload keeps to the limit between any two
steps, and it asks its source only while there is room for one more part, so
that nothing is read ahead.  The main statement, `stays_within`, is about
every run, and it says also that a limit of zero is none.
-/

namespace Multipart

variable {World Content Phase : Type}

/-! ## What is seen in a step -/

/--
Holds of a moment at which so many parts are in flight, and at which the
source is asked only if it may be.
-/
structure Moment.IsSeen (count : Nat) (may : Prop) (moment : Moment) :
    Prop where
  counted : moment.session.inFlight = count
  pulled : moment.event = .pulled → may

theorem Moment.IsSeen.imp {count : Nat} {may could : Prop}
    {moment : Moment} (seen : moment.IsSeen count may)
    (implies : may → could) : moment.IsSeen count could :=
  ⟨seen.counted, implies ∘ seen.pulled⟩

/-- A pause leaves the number of parts in flight as it is. -/
theorem Session.inFlight_pause (session : Session) :
    session.pause.1.inFlight = session.inFlight := by
  rcases session.pause_cases with ⟨same, _⟩ | ⟨same, _⟩ | ⟨same, _⟩ <;>
    rw [same]

theorem Session.inFlight_hear (session : Session) (signals : List Signal) :
    (session.hear signals).inFlight = session.inFlight := by
  induction signals generalizing session with
  | nil => rfl
  | cons first signals ih =>
      cases first with
      | pause => exact (ih _).trans session.inFlight_pause
      | wakePart number => exact ih session
      | wakeDriver => exact ih session
      | note entry => exact ih session

/-- What is written down next is all seen with so many parts in flight. -/
def Recorded.Sees (count : Nat) (may : Prop)
    (before after : Recorded World) : Prop :=
  ∃ moments, after.history = before.history ++ moments ∧
    ∀ moment ∈ moments, moment.IsSeen count may

namespace Recorded.Sees

variable {count : Nat} {may : Prop} {before after : Recorded World}

theorem refl (recorded : Recorded World) :
    recorded.Sees count may recorded :=
  ⟨[], (List.append_nil _).symm, by simp⟩

theorem note (sees : before.Sees count may after) {session : Session}
    {event : Event} (counted : session.inFlight = count)
    (pulled : event = .pulled → may) :
    before.Sees count may (after.note session event) := by
  rcases sees with ⟨moments, same, each⟩
  refine ⟨moments ++ [⟨session, event⟩], ?_, ?_⟩
  · rw [Recorded.note, same, List.append_assoc]
  · intro moment member
    rcases List.mem_append.mp member with earlier | last
    · exact each moment earlier
    · rw [List.mem_singleton.mp last]
      exact ⟨counted, pulled⟩

theorem hear (sees : before.Sees count may after) {session : Session}
    (counted : session.inFlight = count) (signals : List Signal) :
    before.Sees count may (after.hear session signals) := by
  induction signals generalizing after session with
  | nil => exact sees
  | cons first signals ih =>
      cases first with
      | pause =>
          have still := session.inFlight_pause.trans counted
          have paused :
              before.Sees count may
                (after.note session.pause.1 (.paused session.pause.2)) :=
            sees.note still nofun
          exact ih paused still
      | wakePart number => exact ih sees counted
      | wakeDriver => exact ih sees counted
      | note entry => exact ih sees counted

/-- A reply is seen from its event to its result. -/
theorem witness {Outcome : Type} (sees : before.Sees count may after)
    {session : Session} {event : Event} {reply : Reply World Outcome}
    {result : Option Event} (counted : session.inFlight = count)
    (pulled : event = .pulled → may)
    (results : ∀ answer, result = some answer → answer ≠ .pulled) :
    before.Sees count may (after.witness session event reply result) := by
  have asked :
      before.Sees count may
        ({ after with world := reply.world }.note session event) :=
    sees.note counted pulled
  have heard := asked.hear counted reply.signals
  cases result with
  | none => exact heard
  | some answer =>
      exact heard.note ((session.inFlight_hear _).trans counted)
        fun same => (results answer rfl same).elim

end Recorded.Sees

variable {host : Host World Content Phase}

/-- In a step the source is asked only if the next part may be cut. -/
theorem Step.sees
    {place later : Place (Recorded World) Content (Marked Phase)}
    {outcome : Option Outcome}
    (step : Step host.recording place later outcome) :
    place.world.Sees place.upload.session.inFlight place.upload.MayCut
      later.world := by
  refine step.keeps_asked
    (place.world.Sees place.upload.session.inFlight place.upload.MayCut)
    (Recorded.Sees.refl _) ?pulls ?polls
  case pulls =>
    intro recorded upload content may heard sees
    have counted :
        upload.session.inFlight = place.upload.session.inFlight := by
      rw [heard.session]
    refine sees.witness counted (fun _ => may) fun answer given => ?_
    rcases Pull.eq_of_mem_event (Option.mem_toList.mpr given) with
      rfl | ⟨buffer, rfl⟩
    · exact fun same => by cases same
    · exact fun same => by cases same
  case polls =>
    intro request marked polled
    refine (Recorded.Sees.refl _).witness rfl ?_ fun answer given => ?_
    · intro same
      rw [Marked.event] at same
      split at same <;> cases same
    · obtain ⟨_, _, rfl⟩ :=
        Response.eq_of_mem_event (Option.mem_toList.mpr given)
      exact fun same => by cases same

/-- The cutter of an upload changes only when the next part may be cut. -/
theorem Step.cutter
    {place later : Place World Content Phase} {outcome : Option Outcome}
    (step : Step host place later outcome) :
    later.upload.cutter = place.upload.cutter ∨ place.upload.MayCut := by
  have heard {Outcome : Type} (pool : Pool Phase)
      (reply : Reply World Outcome) :
      ((place.upload.withPool pool).hear reply.signals).cutter =
        place.upload.cutter :=
    (Upload.heard_hear _ _).cutter
  cases step with
  | starved may => exact .inr may
  | cut may => exact .inr may
  | spoiled may => exact .inr may
  | exhausted may => exact .inr may
  | snapped may => exact .inr may
  | withdrawn => exact .inl rfl
  | waiting => exact .inl (heard _ _)
  | recalled => exact .inl (heard _ _)
  | received => exact .inl (heard _ _)
  | refused opened front wanted answer left =>
      subst left
      exact .inl ((Upload.cutter_fail host _ _).trans (heard _ _))
  | resting => exact .inl rfl
  | closes => exact .inl rfl
  | stumbles => exact .inl rfl
  | parks => exact .inl rfl
  | unclosed => exact .inl rfl
  | closing => exact .inl (heard place.upload.pool _)
  | reopened => exact .inl (heard place.upload.pool _)
  | rejected unaborted closed wanted answer left =>
      subst left
      exact .inl ((Upload.cutter_fail host _ _).trans
        (heard place.upload.pool _))
  | completes => exact .inl (heard place.upload.pool _)
  | collapsed => exact .inl (heard place.upload.pool _)
  | aborting => exact .inl (heard place.upload.pool _)
  | aborted => exact .inl (heard place.upload.pool _)

/-! ## What a limit keeps -/

namespace Upload

/-- The limit of an upload, and how many parts are in flight. -/
def load (upload : Upload Content Phase) : Option Nat × Nat × Nat :=
  (upload.capacity, upload.pool.size, upload.session.inFlight)

theorem Heard.load {upload later : Upload Content Phase}
    (heard : Heard upload later) : later.load = upload.load := by
  have session := congrArg Session.inFlight heard.session
  exact Prod.ext heard.capacity (Prod.ext heard.size session)

/-- What is known of an upload with a limit. -/
structure Limited (limit : Nat) (upload : Upload Content Phase) : Prop where
  capacity : upload.capacity = some limit
  /-- Every request of the pool is counted. -/
  held : upload.pool.size ≤ upload.session.inFlight
  within : upload.session.inFlight ≤ limit

namespace Limited

variable {limit : Nat} {upload later : Upload Content Phase}

theorem ofPlan {limit : Nat} (positive : 0 < limit) (target : Target)
    (plan : Plan) (given : List Receipt) (content : Content) :
    (Upload.ofPlan target plan given (some limit) content :
      Upload Content Phase).Limited limit where
  capacity := by
    cases limit with
    | zero => exact absurd positive (Nat.lt_irrefl 0)
    | succ limit => rfl
  held := Nat.le_refl _
  within := Nat.zero_le _

/-- The limit is kept as long as the load is the same. -/
theorem congr (limited : upload.Limited limit)
    (same : later.load = upload.load) : later.Limited limit := by
  obtain ⟨capacity, size, counted⟩ :
      later.capacity = upload.capacity ∧
        later.pool.size = upload.pool.size ∧
        later.session.inFlight = upload.session.inFlight := by
    simpa [load] using same
  exact
    { capacity := capacity.trans limited.capacity
      held := by rw [size, counted]; exact limited.held
      within := by rw [counted]; exact limited.within }

/-- A request that resolves leaves the pool and is no longer counted. -/
theorem settled (limited : upload.Limited limit) {number : PartNumber}
    (member : number ∈ upload.pool.numbers)
    (capacity : later.capacity = upload.capacity)
    (pool : later.pool = upload.pool.remove number)
    (counted : later.session.inFlight = upload.session.inFlight - 1) :
    later.Limited limit := by
  have held := limited.held
  have within := limited.within
  have fewer := Pool.size_remove_lt member
  refine ⟨capacity.trans limited.capacity, ?_, ?_⟩
  · rw [pool, counted]
    omega
  · rw [counted]
    omega

/-- An upload may give up all its requests. -/
theorem emptied (limited : upload.Limited limit)
    (capacity : later.capacity = upload.capacity) (pool : later.pool = {})
    (counted : later.session.inFlight = upload.session.inFlight) :
    later.Limited limit where
  capacity := capacity.trans limited.capacity
  held := by
    rw [pool]
    exact Nat.zero_le _
  within := counted ▸ limited.within

/-- The client's state of a request does not count. -/
theorem setPhase (limited : upload.Limited limit) (number : PartNumber)
    (phase : Phase) :
    (upload.withPool (upload.pool.setPhase number phase)).Limited limit :=
  limited.congr
    (Prod.ext rfl
      (Prod.ext (upload.pool.size_setPhase number phase) rfl))

theorem fail (limited : upload.Limited limit)
    (host : Host World Content Phase) (failure : Failure) :
    (upload.fail host failure).1.Limited limit := by
  rw [Upload.fail]
  cases upload.session.verdict <;> exact limited.emptied rfl rfl rfl

/-- A part may be sent while there is room. -/
theorem sendPart (limited : upload.Limited limit)
    (host : Host World Content Phase) (body : Bytes)
    (room : upload.session.inFlight < limit) :
    (upload.sendPart host body).Limited limit := by
  rw [Upload.sendPart]
  dsimp only
  split
  · exact limited.congr rfl
  · refine ⟨limited.capacity, ?_, room⟩
    rw [Pool.size_push]
    exact Nat.succ_le_succ limited.held

/-- An upload that may cut the next part has room for it. -/
theorem room (limited : upload.Limited limit) (may : upload.MayCut) :
    upload.pool.size < limit := by
  have room := may.room
  rw [hasRoom, limited.capacity] at room
  exact of_decide_eq_true room

end Limited

/-- Until an upload is aborted all that is counted is in the pool. -/
theorem Sound.inFlight_eq {target : Target} {plan : Plan}
    {existing : PartTable Receipt} {upload : Upload Content Phase}
    (sound : upload.Sound target plan existing)
    (unresolved : upload.resolved = false)
    (unaborted : upload.abort = none) :
    upload.session.inFlight = upload.pool.size := by
  refine sound.counted unresolved fun failed => ?_
  have begun := sound.begun unresolved failed
  rw [unaborted] at begun
  cases begun

end Upload

section

variable {target : Target} {plan : Plan} {existing : PartTable Receipt}
  {limit : Nat}

/-- Every step of a poll keeps to the limit. -/
theorem Step.limited
    {place later : Place World Content Phase} {outcome : Option Outcome}
    (limited : place.upload.Limited limit)
    (sound : place.upload.Sound target plan existing)
    (unresolved : place.upload.resolved = false)
    (step : Step host place later outcome) :
    later.upload.Limited limit := by
  have hears {Outcome : Type} (reply : Reply World Outcome) :
      (place.hear reply).upload.Limited limit :=
    limited.congr (place.heard reply).load
  cases step with
  | withdrawn opened front =>
      exact limited.settled
        (List.mem_map_of_mem (Pool.mem_flights_of_front front)) rfl rfl rfl
  | waiting opened front =>
      have heard := Upload.heard_heardPart host front
      exact (limited.congr heard.load).setPhase _ _
  | recalled opened front =>
      have heard := Upload.heard_heardPart host front
      refine ((limited.congr heard.load).setPhase _ _).settled
        ?_ rfl rfl rfl
      change _ ∈ (Pool.setPhase _ _ _).numbers
      rw [Pool.numbers_setPhase, heard.numbers.mem_iff]
      exact List.mem_map_of_mem (Pool.mem_flights_of_front front)
  | received opened front =>
      have heard := Upload.heard_heardPart host front
      exact (limited.congr heard.load).settled
        (heard.numbers.mem_iff.mpr
          (List.mem_map_of_mem (Pool.mem_flights_of_front front)))
        rfl rfl rfl
  | refused opened front wanted answer left =>
      have heard := Upload.heard_heardPart host front
      subst left
      refine Upload.Limited.fail ?_ host _
      exact (limited.congr heard.load).settled
        (heard.numbers.mem_iff.mpr
          (List.mem_map_of_mem (Pool.mem_flights_of_front front)))
        rfl rfl rfl
  | resting => exact limited
  | starved may polled =>
      exact limited.congr (Cutter.polled host polled).heard.load
  | cut may polled =>
      have heard := (Cutter.polled host polled).heard
      have counted := sound.inFlight_eq unresolved may.unaborted
      have load := congrArg (·.2.2) heard.load
      refine Upload.Limited.sendPart ?_ host _ ?_
      · exact limited.congr heard.load
      · change _ = place.upload.session.inFlight at load
        exact (load.trans counted).trans_lt (limited.room may)
  | spoiled may polled =>
      have heard := (Cutter.polled host polled).heard
      refine Upload.Limited.fail ?_ host _
      exact limited.congr heard.load
  | exhausted may polled =>
      exact limited.congr (Cutter.polled host polled).heard.load
  | snapped may polled =>
      exact limited.congr (Cutter.polled host polled).heard.load
  | closes => exact limited.congr rfl
  | stumbles => exact limited.congr rfl
  | parks => exact limited.emptied rfl rfl rfl
  | unclosed => exact limited.emptied rfl rfl rfl
  | closing => exact (hears _).congr rfl
  | reopened => exact (hears _).emptied rfl rfl rfl
  | rejected unaborted closed wanted answer left =>
      subst left
      refine Upload.Limited.fail ?_ host _
      exact (hears _).congr rfl
  | completes => exact (hears _).emptied rfl rfl rfl
  | collapsed => exact (hears _).congr rfl
  | aborting => exact (hears _).congr rfl
  | aborted => exact (hears _).emptied rfl rfl rfl

/-! ## Every run -/

/-- Holds of a moment at which a limit is kept. -/
def Moment.Within (limit : Nat) (moment : Moment) : Prop :=
  moment.session.inFlight ≤ limit ∧
    (moment.event = .pulled → moment.session.inFlight < limit)

/-- What is known of a recorded upload with a limit. -/
structure Limiting (target : Target) (plan : Plan)
    (existing : PartTable Receipt) (limit : Nat)
    (place : Place (Recorded World) Content (Marked Phase)) : Prop where
  sound : place.upload.Sound target plan existing
  limited : place.upload.Limited limit
  within : ∀ moment ∈ place.world.history, moment.Within limit

namespace Limiting

variable
  {place later : Place (Recorded World) Content (Marked Phase)}

/-- An upload that has not been polled has nothing in flight. -/
theorem ofPlan (positive : 0 < limit) (world : World) (target : Target)
    (plan : Plan) (given : List Receipt) (content : Content) :
    Limiting target plan
      (Progress.ofReceipts
        (given.filter fun receipt => plan.contains receipt.number)).existing
      limit
      (Place.begin world
        (.ofPlan target plan given (some limit) content) :
        Place (Recorded World) Content (Marked Phase)) where
  sound := Upload.sound_ofPlan target plan given (some limit) content
  limited := .ofPlan positive target plan given content
  within := by simp [Place.begin]

/-- What is seen in a step keeps to the limit. -/
theorem step (limiting : Limiting target plan existing limit place)
    (unresolved : place.upload.resolved = false)
    {outcome : Option Outcome}
    (step : Step host.recording place later outcome) :
    Limiting target plan existing limit later where
  sound := limiting.sound.step unresolved step
  limited := step.limited limiting.limited limiting.sound unresolved
  within := by
    obtain ⟨moments, same, each⟩ := step.sees
    intro moment member
    rw [same] at member
    rcases List.mem_append.mp member with earlier | last
    · exact limiting.within moment earlier
    · have seen := each moment last
      constructor
      · rw [seen.counted]
        exact limiting.limited.within
      · intro pulled
        have may := seen.pulled pulled
        rw [seen.counted,
          limiting.sound.inFlight_eq unresolved may.unaborted]
        exact limiting.limited.room may

/-- What is not asked of the source may be written down. -/
theorem note (limiting : Limiting target plan existing limit place)
    {event : Event} (unasked : event ≠ .pulled) :
    Limiting target plan existing limit (place.note event) where
  sound := limiting.sound
  limited := limiting.limited
  within moment member := by
    rcases List.mem_append.mp member with earlier | last
    · exact limiting.within moment earlier
    · rw [List.mem_singleton.mp last]
      exact ⟨limiting.limited.within, fun same => (unasked same).elim⟩

theorem heard (limiting : Limiting target plan existing limit place)
    {upload : Upload Content (Marked Phase)}
    (heard : Upload.Heard place.upload upload) :
    Limiting target plan existing limit (place.become upload) :=
  ⟨limiting.sound.heard heard, limiting.limited.congr heard.load,
    limiting.within⟩

theorem keeps (host : Host World Content Phase) :
    Keeps host
      (Limiting target plan existing limit)
      (Limiting target plan existing limit) where
  activate limiting _ :=
    ⟨limiting.sound.activate, limiting.limited.congr rfl,
      limiting.within⟩
  step limiting unresolved step := limiting.step unresolved step
  returns limiting unresolved step :=
    (limiting.step unresolved step).note nofun
  again limiting _ := limiting.note nofun
  pause limiting :=
    (limiting.heard (Upload.heard_pause _)).note nofun
  wake number limiting :=
    limiting.heard (Upload.heard_signal _ (.wakePart number))
  change _ limiting := ⟨limiting.sound, limiting.limited, limiting.within⟩
  feed feed limiting :=
    ⟨limiting.sound.feed feed, limiting.limited.congr rfl,
      limiting.within⟩

end Limiting

/-- What a limit says of a step: what is in flight, and what is asked. -/
structure Step.Within (limit : Nat)
    (place later : Place (Recorded World) Content (Marked Phase)) :
    Prop where
  before : place.upload.pool.size ≤ limit
  after : later.upload.pool.size ≤ limit
  counted : place.upload.pool.size ≤ place.upload.session.inFlight
  asks : ∃ moments, later.world.history = place.world.history ++ moments ∧
    ∀ moment ∈ moments, moment.IsSeen place.upload.session.inFlight
      (place.upload.pool.size < limit)
  cuts : later.upload.cutter ≠ place.upload.cutter →
    place.upload.pool.size < limit

theorem Limiting.stepWithin
    {place later : Place (Recorded World) Content (Marked Phase)}
    (limiting : Limiting target plan existing limit place)
    (unresolved : place.upload.resolved = false)
    {outcome : Option Outcome}
    (step : Step host.recording place later outcome) :
    Step.Within limit place later := by
  have before := limiting.limited
  have after := (limiting.step unresolved step).limited
  refine ⟨before.held.trans before.within, after.held.trans after.within,
    before.held, ?_, ?_⟩
  · obtain ⟨moments, same, each⟩ := step.sees
    exact ⟨moments, same, fun moment member =>
      (each moment member).imp before.room⟩
  · intro changes
    exact before.room (step.cutter.resolve_left changes)

end

/--
At no time are more part requests of an upload in flight than its limit says,
and the source is asked, and a part is cut, only while there are fewer.  This
is so between any two steps of a poll.  A limit of zero is no limit.
-/
theorem stays_within (host : Host World Content Phase) (world : World)
    (uploader : Uploader) (target : Target) (plan : Plan)
    (given : List Receipt) (content : Content)
    (moves : List (Move World Content)) :
    (∀ {limit}, 0 < limit →
      let place :=
        (Place.begin world
          ((uploader.withLimit limit).upload target plan given
            content)).replay host moves
      let polled := place.poll host.recording
      place.upload.pool.size ≤ limit ∧
        (∀ moment ∈ place.world.history, moment.Within limit) ∧
        (place.upload.resolved = false →
          Arrives host.recording place.activate polled.1 (some polled.2) ∧
            ∀ {middle later outcome},
              Steps host.recording place.activate middle →
                Step host.recording middle later outcome →
                  Step.Within limit middle later)) ∧
      (Place.begin world
          ((uploader.withLimit 0).upload target plan given
            content)).replay host moves =
        (Place.begin world
          ({ uploader with limit := none }.upload target plan given
            content)).replay host moves := by
  refine ⟨fun {limit} positive => ?_, rfl⟩
  intro place polled
  have begun :
      Limiting target plan _ limit
        (Place.begin world
          ((uploader.withLimit limit).upload target plan given content) :
          Place (Recorded World) Content (Marked Phase)) :=
    .ofPlan positive world target plan given content
  have limiting := (Limiting.keeps host).replay begun moves
  refine ⟨limiting.limited.held.trans limiting.limited.within,
    limiting.within, fun unresolved => ⟨?_, ?_⟩⟩
  · exact steps_poll host.recording place.world unresolved
  · intro middle later outcome steps step
    obtain ⟨still, goesOn⟩ := (Limiting.keeps host).steps
      ((Limiting.keeps host).activate limiting unresolved) unresolved steps
    exact still.stepWithin goesOn step

/-- An upload in four parts, two at once, after moves on a mute host. -/
def Host.limitedPlace (moves : List (Move Unit Bytes)) :
    Place (Recorded Unit) Bytes (Marked Unit) :=
  (Place.begin ()
    ((({} : Uploader).withLimit 2).upload
      ⟨⟨"upload-1"⟩, .ofPair "bucket" "key"⟩ (.ofLength 4 1) []
      [1, 2, 3, 4])).replay mute moves

/-- The first poll sends two parts and leaves the rest in the source. -/
theorem within_mute :
    let place := Host.limitedPlace [.poll]
    place.upload.pool.size = 2 ∧ place.upload.cutter.content = [3, 4] ∧
      (∀ moment ∈ place.world.history, moment.Within 2) ∧
      ∀ {middle later outcome},
        Steps Host.mute.recording place.activate middle →
          Step Host.mute.recording middle later outcome →
            Step.Within 2 middle later := by
  have within :=
    (stays_within Host.mute () {} ⟨⟨"upload-1"⟩, .ofPair "bucket" "key"⟩
      (.ofLength 4 1) [] [1, 2, 3, 4] [.poll]).1 Nat.two_pos
  exact ⟨by decide +kernel, by decide +kernel, within.2.1,
    (within.2.2 (by decide +kernel)).2⟩

end Multipart
