import Multipart.Proofs.Waiting.Awaited

/-!
# What a pending upload waits for

A poll that ends pending may leave its task asleep only if something will wake
it once more.  The main statement, `never_stalls`, says what that is, on every
host and after every run that no missing receipt has brought to an end.
-/

namespace Multipart

variable {World Content Phase : Type} {target : Target} {plan : Plan}
  {existing : PartTable Receipt}

/-! ## Every run -/

/-- Holds when a missing receipt has brought a poll to an end. -/
def History.Stumbles (history : History) : Prop :=
  ∃ number count,
    .returned (.faulted (.noReceipt number count)) ∈ history.events

/-- What has brought a poll to an end stays written down. -/
theorem History.Stumbles.append {history : History}
    (stumbles : history.Stumbles) (more : History) :
    Stumbles (history ++ more) := by
  rcases stumbles with ⟨number, count, member⟩
  refine ⟨number, count, ?_⟩
  rw [events, List.map_append]
  exact List.mem_append_left _ member

/-- What is known of a recorded upload, unless it has stumbled. -/
def Waiting (target : Target) (plan : Plan)
    (existing : PartTable Receipt)
    (place : Place (Recorded World) Content (Marked Phase)) : Prop :=
  place.world.history.Stumbles ∨
    place.upload.Sound target plan existing ∧ place.upload.Poised

namespace Waiting

variable {host : Host World Content Phase}
  {place later : Place (Recorded World) Content (Marked Phase)}

/-- An upload may change and moments may be added. -/
theorem grow {moments : History}
    (waiting : Waiting target plan existing place)
    (history :
      later.world.history = place.world.history ++ moments)
    (sound : place.upload.Sound target plan existing →
      later.upload.Sound target plan existing)
    (poised : place.upload.Poised → later.upload.Poised) :
    Waiting target plan existing later := by
  rw [Waiting, history]
  exact waiting.imp (fun stumbles => stumbles.append moments)
    fun ready => ⟨sound ready.1, poised ready.2⟩

theorem step {outcome : Option Outcome}
    (waiting : Waiting target plan existing place)
    (unresolved : place.upload.resolved = false)
    (step : Step host.recording place later outcome)
    (faultless : ∀ number count,
      outcome ≠ some (.faulted (.noReceipt number count))) :
    Waiting target plan existing later := by
  have tells : Tells fun _ history => history.Stumbles :=
    { note := fun known _ => known.append _
      pause := fun known => known.append _
      congr := fun known _ _ _ => known
      fail := fun known _ => known }
  exact waiting.imp (fun stumbles => tells.step stumbles step)
    fun ready => ⟨ready.1.step unresolved step,
      step.poised ready.1 ready.2 faultless⟩

/-- An upload that counts as started is poised as before. -/
theorem poised_activate (poised : place.upload.Poised) :
    place.activate.upload.Poised :=
  poised.reduce rfl
    (fun going => ⟨⟨going.running, going.unresolved⟩, rfl, rfl⟩)
    poised.aborts

/-- Every run leaves an upload that can be driven on, or stumbles. -/
theorem keeps (host : Host World Content Phase) :
    Keeps host (Waiting target plan existing : Place (Recorded World)
        Content (Marked Phase) → Prop)
      (Waiting target plan existing) where
  activate waiting _ :=
    waiting.imp_right fun ready =>
      ⟨ready.1.activate, poised_activate ready.2⟩
  step waiting unresolved step :=
    waiting.step unresolved step fun _ _ => nofun
  returns {place later outcome} waiting unresolved last := by
    by_cases faulted : ∃ number count,
        outcome = .faulted (.noReceipt number count)
    · obtain ⟨number, count, rfl⟩ := faulted
      refine .inl ⟨number, count, ?_⟩
      change _ ∈ List.map _ (later.world.history ++ _)
      rw [List.map_append]
      exact List.mem_append_right _ (List.mem_singleton.mpr rfl)
    · have after := waiting.step unresolved last fun number count same =>
        faulted ⟨number, count, Option.some.inj same⟩
      exact after.grow rfl id id
  again waiting _ := waiting.grow rfl id id
  pause waiting :=
    waiting.grow rfl (·.heard (Upload.heard_pause _))
      (·.heard (Upload.heard_pause _))
  wake number waiting :=
    waiting.grow (List.append_nil _).symm
      (·.heard (Upload.heard_signal _ (.wakePart number)))
      (·.heard (Upload.heard_signal _ (.wakePart number)))
  change change waiting := waiting
  feed feed waiting :=
    waiting.grow (List.append_nil _).symm (·.feed feed) fun poised =>
      poised.reduce rfl
        (fun going => ⟨⟨going.running, going.unresolved⟩, rfl, rfl⟩)
        poised.aborts

end Waiting

/--
A poll that ends pending without waking the task of its upload leaves every
part request polled, and with them something that will wake the task: some
request of the upload has not resolved, or the source of the content was asked
last in this poll and had no buffer yet.  A round that may not complete the
upload though nothing is in flight ends its poll pending as well, but then the
upload was paused in the course of that round, and its task is woken.  This
holds on any host and after every run in which no poll has ended for want of a
receipt.
-/
theorem never_stalls (host : Host World Content Phase) (world : World)
    (target : Target) (plan : Plan) (given : List Receipt)
    (limit : Option Nat) (content : Content)
    (moves : List (Move World Content)) :
    let place := (Place.begin world
      (.ofPlan target plan given limit content)).replay host moves
    let start : Turn (Recorded World) Content (Marked Phase) :=
      { upload := place.upload, world := place.world }
    let polled := place.upload.poll host.recording place.world
    ¬ place.world.history.Stumbles →
      (polled.2 = .pending → polled.1.woken = false →
        polled.1.upload.pool.queued = [] ∧
          (polled.1.upload.requests ≠ [] ∨
            place.world.history.Starves polled.1.world.history)) ∧
      (place.upload.resolved = false → ∀ turn last,
        start.activate.Rounds host.recording turn →
          turn.Declines host.recording last →
            polled = (last, .pending) ∧
              turn.upload.session.verdict = .running ∧
              last.upload.session.verdict = .paused ∧
              last.woken = true) := by
  intro place start polled steady
  let existing := (Progress.ofReceipts
    (given.filter fun receipt => plan.contains receipt.number)).existing
  have begun : Waiting target plan existing
      (Place.begin world (.ofPlan target plan given limit content) :
        Place (Recorded World) Content (Marked Phase)) :=
    .inr ⟨Upload.sound_ofPlan target plan given limit content,
      .ofPlan target plan given limit content⟩
  have ready := ((Waiting.keeps host).replay begun moves).resolve_left steady
  have activated : start.activate.place = place.activate :=
    start.place_activate
  have driven (unresolved : place.upload.resolved = false) :
      start.activate.place.upload.Driven target plan existing := by
    rw [activated]
    exact ⟨ready.1.activate, Waiting.poised_activate ready.2, unresolved⟩
  have poll (unresolved : place.upload.resolved = false) :
      polled = start.activate.rounds host.recording :=
    place.upload.poll_of_unresolved host.recording place.world unresolved
  constructor
  · intro pending asleep
    cases resolved : place.upload.resolved with
    | true =>
        have faulted := Place.poll_of_resolved host.recording resolved
        have outcome : polled.2 = .faulted .alreadyResolved :=
          congrArg Prod.snd faulted
        cases pending.symm.trans outcome
    | false =>
        obtain ⟨middle, rounds, ends⟩ :=
          Turn.rounds_last host.recording start.activate
        rw [← poll resolved, pending] at ends
        have awaited := Turn.isAwaited_round
          (Steps.driven rounds.steps (driven resolved)) ends
        have before := Steps.history_prefix rounds.steps
        rw [activated] at before
        refine (awaited.from before).resolve_left fun woken => ?_
        cases asleep.symm.trans woken
  · intro unresolved turn last rounds declines
    refine ⟨?_, declines.woken (Steps.driven rounds.steps
      (driven unresolved))⟩
    rw [poll unresolved]
    exact rounds.rounds_eq_last declines.round_eq

/-- A host that lets requests wait once, and then asks for a pause. -/
def Host.fickle : Host Unit Unit Bool where
  unsent _ := false
  poll _ _ request asked :=
    { world := ()
      signals := if asked then [.pause] else []
      outcome :=
        match request, asked with
        | .part _ number _, true =>
          .finished (.ok { number, tag := ⟨"etag"⟩, size := 0 })
        | _, _ => .waiting true }
  size _ := 0
  pull _ _ _ := { world := (), outcome := .ended () }

/-- An upload of one part on that host, after moves. -/
def Host.ficklePlace (moves : List (Move Unit Unit)) :
    Place (Recorded Unit) Unit (Marked Bool) :=
  (Place.begin ()
    (.ofPlan ⟨⟨"upload-1"⟩, .ofPair "bucket" "key"⟩ (.ofLength 0 1) [] none
      ())).replay fickle moves

/-- The poll that follows there. -/
def Host.ficklePoll (moves : List (Move Unit Unit)) :
    Turn (Recorded Unit) Unit (Marked Bool) × Outcome :=
  (ficklePlace moves).upload.poll fickle.recording (ficklePlace moves).world

/-- The turn with which that poll begins. -/
def Host.fickleTurn (moves : List (Move Unit Unit)) :
    Turn (Recorded Unit) Unit (Marked Bool) :=
  Turn.activate
    { upload := (ficklePlace moves).upload
      world := (ficklePlace moves).world }

/-- No run stumbles in which no poll returns a fault. -/
theorem History.not_stumbles {history : History}
    (fine : history.any
      (·.event matches .returned (.faulted _)) = false) :
    ¬ history.Stumbles := by
  rintro ⟨number, count, member⟩
  rcases List.mem_map.mp member with ⟨moment, listed, same⟩
  have none := List.any_eq_false.mp fine moment listed
  rw [same] at none
  exact none rfl

/-- On that host a poll may end with nothing in flight, right after a pause. -/
theorem Host.declines_fickle :
    (fickleTurn [.poll, .wake ⟨1⟩]).Declines fickle.recording
      ((fickleTurn [.poll, .wake ⟨1⟩]).drainPool
        fickle.recording).1 where
  opened :=
    ⟨Option.isNone_iff_eq_none.mp (by decide +kernel),
      Option.isNone_iff_eq_none.mp (by decide +kernel)⟩
  unpaused := by decide +kernel
  drained := by
    have ends : (((fickleTurn [.poll, .wake ⟨1⟩]).drainPool
        fickle.recording).2 matches .empty) = true := by decide +kernel
    have none : ((fickleTurn [.poll, .wake ⟨1⟩]).drainPool
        fickle.recording).1.upload.pool.size = 0 := by decide +kernel
    refine ⟨((fickleTurn [.poll, .wake ⟨1⟩]).drainPool
      fickle.recording).1, .empty, ?_, fun _ => nofun, ?_, ?_, ?_⟩
    · split at ends
      · exact Prod.ext rfl ‹_›
      · cases ends
    · decide +kernel
    · decide +kernel
    · rw [Turn.drainPool, none]
      rfl
  refused := by decide +kernel

/--
On that host the second poll finds a request that still waits; once it is
woken, that poll pauses the upload instead, and its task is woken again.
-/
theorem woken_fickle :
    (¬ (Host.ficklePlace [.poll]).world.history.Stumbles ∧
      (Host.ficklePoll [.poll]).2 = .pending ∧
      (Host.ficklePoll [.poll]).1.woken = false ∧
      (Host.ficklePoll [.poll]).1.upload.pool.queued = [] ∧
      ((Host.ficklePoll [.poll]).1.upload.requests ≠ [] ∨
        History.Starves (Host.ficklePlace [.poll]).world.history
          (Host.ficklePoll [.poll]).1.world.history)) ∧
      (Host.ficklePoll [.poll, .wake ⟨1⟩]).2 = .pending ∧
      (Host.ficklePoll [.poll, .wake ⟨1⟩]).1.woken = true := by
  have stalls (moves : List (Move Unit Unit)) :=
    never_stalls Host.fickle () ⟨⟨"upload-1"⟩, .ofPair "bucket" "key"⟩
      (.ofLength 0 1) [] none () moves
  have pending : (Host.ficklePoll [.poll]).2 = .pending := by
    have ends : ((Host.ficklePoll [.poll]).2 matches .pending) = true := by
      decide +kernel
    split at ends
    · assumption
    · cases ends
  have steady : ¬ (Host.ficklePlace [.poll]).world.history.Stumbles :=
    History.not_stumbles (by decide +kernel)
  have asleep : (Host.ficklePoll [.poll]).1.woken = false := by
    decide +kernel
  have waits := (stalls [.poll] steady).1 pending asleep
  have steady' :
      ¬ (Host.ficklePlace [.poll, .wake ⟨1⟩]).world.history.Stumbles :=
    History.not_stumbles (by decide +kernel)
  obtain ⟨polled, _, _, woken⟩ :=
    (stalls [.poll, .wake ⟨1⟩] steady').2 (by decide +kernel) _ _ .refl
      Host.declines_fickle
  refine ⟨⟨steady, pending, asleep, waits⟩, ?_⟩
  rw [show Host.ficklePoll [.poll, .wake ⟨1⟩] = _ from polled]
  exact ⟨rfl, woken⟩

end Multipart
