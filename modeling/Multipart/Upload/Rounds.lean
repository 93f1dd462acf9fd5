import Multipart.Upload.Drive

/-!
# The rounds of a poll come to an end

The rounds that an upload may still go are counted by what each of them uses
up: the verdict, the end of the content, the beginning of its completion, and
one for every part that is left to cut.  Whatever a host signals leaves all of
these alone, except that it may bring about the verdict.  The main statement
is that a round followed by another leaves fewer to go, and polling an upload
rests on it.
-/

namespace Multipart

namespace Turn

variable {World Content Phase : Type}

/-- How many verdicts are still to come. -/
def verdictsLeft : Verdict → Nat
  | .running => 1
  | .paused => 0
  | .failed => 0

/-- How many rounds an upload may still go. -/
def roundsLeft (turn : Turn World Content Phase) : Nat :=
  verdictsLeft turn.upload.session.verdict +
    (!turn.upload.session.sourceDone).toNat +
    (!turn.upload.session.completing).toNat +
    (turn.upload.cutter.plan.partCount.toNat -
      turn.upload.cutter.emitted)

/-- What a turn keeps while requests are polled and resolved. -/
structure Calm (before after : Turn World Content Phase) : Prop where
  cutter : after.upload.cutter = before.upload.cutter
  sourceDone :
    after.upload.session.sourceDone = before.upload.session.sourceDone
  completing :
    after.upload.session.completing = before.upload.session.completing
  verdict :
    before.upload.session.verdict ≠ .running →
      after.upload.session.verdict = before.upload.session.verdict

theorem Calm.refl (turn : Turn World Content Phase) : Calm turn turn :=
  ⟨rfl, rfl, rfl, fun _ => rfl⟩

theorem Calm.trans {first second third : Turn World Content Phase}
    (left : Calm first second) (right : Calm second third) :
    Calm first third where
  cutter := right.cutter.trans left.cutter
  sourceDone := right.sourceDone.trans left.sourceDone
  completing := right.completing.trans left.completing
  verdict decided := by
    have same := left.verdict decided
    exact (right.verdict (same ▸ decided)).trans same

/-- A turn that was kept calm has no more rounds to go. -/
theorem Calm.roundsLeft_le {before after : Turn World Content Phase}
    (calm : Calm before after) : after.roundsLeft ≤ before.roundsLeft := by
  have verdict :
      verdictsLeft after.upload.session.verdict ≤
        verdictsLeft before.upload.session.verdict := by
    by_cases running : before.upload.session.verdict = .running
    · rw [running]
      cases after.upload.session.verdict <;> simp [verdictsLeft]
    · exact Nat.le_of_eq
        (congrArg verdictsLeft (calm.verdict running))
  rw [roundsLeft, roundsLeft]
  rw [calm.cutter, calm.sourceDone, calm.completing]
  omega

/-! ## Signals and requests keep a turn calm -/

theorem calm_note (turn : Turn World Content Phase)
    (entries : List Journal.Entry) : Calm turn (turn.note entries) :=
  ⟨rfl, rfl, rfl, fun _ => rfl⟩

theorem calm_wake (turn : Turn World Content Phase) :
    Calm turn turn.wake :=
  ⟨rfl, rfl, rfl, fun _ => rfl⟩

theorem calm_withPool (turn : Turn World Content Phase)
    (pool : Pool Phase) : Calm turn (turn.withPool pool) :=
  ⟨rfl, rfl, rfl, fun _ => rfl⟩

/-- A pause decides a session at most once and changes nothing else. -/
theorem calm_pause (upload : Upload Content Phase) :
    upload.pause.1.cutter = upload.cutter ∧
      upload.pause.1.session.sourceDone = upload.session.sourceDone ∧
      upload.pause.1.session.completing = upload.session.completing ∧
      (upload.session.verdict ≠ .running →
        upload.pause.1.session.verdict = upload.session.verdict) := by
  unfold Upload.pause Session.pause
  by_cases completed : upload.session.completed
  · simp [completed]
  · cases verdict : upload.session.verdict <;> simp [completed, verdict]

theorem calm_pauseHere (turn : Turn World Content Phase) :
    Calm turn turn.pauseHere := by
  obtain ⟨cutter, sourceDone, completing, verdict⟩ :=
    calm_pause turn.upload
  unfold pauseHere
  simp only
  split <;> exact ⟨cutter, sourceDone, completing, verdict⟩

theorem calm_signal (turn : Turn World Content Phase) (signal : Signal) :
    Calm turn (turn.signal signal) := by
  cases signal with
  | pause => exact calm_pauseHere turn
  | wakePart number =>
      show Calm turn (if _ then _ else _)
      split
      · exact (calm_withPool _ _).trans (calm_wake _)
      · exact Calm.refl _
  | wakeDriver => exact calm_wake _
  | note entry => exact calm_note _ _

theorem calm_receive (turn : Turn World Content Phase)
    (signals : List Signal) : Calm turn (turn.receive signals) := by
  induction signals generalizing turn with
  | nil => exact Calm.refl _
  | cons first signals ih =>
      exact (calm_signal turn first).trans (ih _)

theorem calm_hear {Outcome : Type} (turn : Turn World Content Phase)
    (reply : Reply World Outcome) : Calm turn (turn.hear reply) := by
  have start : Calm turn { turn with world := reply.world } :=
    ⟨rfl, rfl, rfl, fun _ => rfl⟩
  exact start.trans (calm_receive _ _)

theorem calm_drop (turn : Turn World Content Phase)
    (flight : Flight Phase) : Calm turn (turn.drop flight) :=
  ⟨rfl, rfl, rfl, fun _ => rfl⟩

theorem calm_pollFlight (host : Host World Content Phase)
    (turn : Turn World Content Phase) (flight : Flight Phase)
    (queued : List (Flight Phase)) :
    Calm turn (turn.pollFlight host flight queued).1 := by
  rw [pollFlight]
  simp only
  have heard :=
    fun reply : Reply World
        (Response Phase (.part turn.upload.session.target
          flight.number flight.body)) =>
      (calm_withPool turn
        { queued, idle := turn.upload.pool.idle ++ [flight] }).trans
        (calm_hear _ reply)
  split
  · exact (heard _).trans (calm_withPool _ _)
  · split
    · split
      · exact ((heard _).trans (calm_withPool _ _)).trans (calm_drop _ _)
      · exact (heard _).trans (calm_withPool _ _)
    · exact (heard _).trans (calm_withPool _ _)
  · rename_i panic _ _
    exact nomatch panic

theorem calm_pollPool (host : Host World Content Phase)
    (remaining yields : Nat) (turn : Turn World Content Phase) :
    Calm turn (turn.pollPool host remaining yields).1 := by
  induction remaining generalizing yields turn with
  | zero =>
      rw [pollPool]
      split
      · exact Calm.refl _
      · exact calm_wake _
  | succ remaining ih =>
      rw [pollPool]
      split
      · split <;> exact Calm.refl _
      · rename_i flight queued _
        split
        · exact calm_drop _ _
        · have polled := calm_pollFlight host turn flight queued
          split
          · rename_i later answer
            rw [answer] at polled
            simp only
            apply polled.trans
            split
            · split
              · exact ih _ _
              · exact calm_wake _
            · split
              · exact ih _ _
              · exact calm_wake _
          · exact polled

theorem calm_land (turn : Turn World Content Phase) (number : PartNumber)
    (result : Option (Except Failure Receipt)) :
    Calm turn (turn.land number result).1 := by
  rcases result with _ | _ | _ <;> exact ⟨rfl, rfl, rfl, fun _ => rfl⟩

theorem calm_drainOnce (host : Host World Content Phase)
    (turn : Turn World Content Phase) :
    Calm turn (turn.drainOnce host).1 := by
  have polled := calm_pollPool host turn.upload.pool.size 0 turn
  rw [drainOnce]
  split
  · rename_i answer; rw [answer] at polled; exact polled
  · rename_i answer; rw [answer] at polled; exact polled
  · rename_i later number result answer
    rw [answer] at polled
    have landed := calm_land later number result
    split
    · rename_i outcome; rw [outcome] at landed; exact polled.trans landed
    · rename_i outcome; rw [outcome] at landed; exact polled.trans landed

theorem calm_drain (host : Host World Content Phase) (budget : Nat)
    (turn : Turn World Content Phase) :
    Calm turn (turn.drain host budget).1 := by
  induction budget generalizing turn with
  | zero => exact Calm.refl _
  | succ budget ih =>
      have once := calm_drainOnce host turn
      rw [drain]
      split
      · rename_i outcome; rw [outcome] at once; exact once
      · rename_i outcome; rw [outcome] at once; exact once.trans (ih _)

theorem calm_sendPart (host : Host World Content Phase)
    (turn : Turn World Content Phase) (body : Bytes) :
    Calm turn (turn.sendPart host body) := by
  unfold sendPart Session.takeNumber
  dsimp only
  by_cases skipped :
      turn.upload.session.progress.existing.contains
        turn.upload.session.nextPart
  · rw [if_pos skipped]
    exact ⟨rfl, rfl, rfl, fun _ => rfl⟩
  · rw [if_neg skipped]
    exact ⟨rfl, rfl, rfl, fun _ => rfl⟩

/-! ## Rounds that are followed by others -/

/-- Only a running upload goes on after a failure, and is decided by it. -/
theorem roundsLeft_fail (host : Host World Content Phase)
    {turn later : Turn World Content Phase} {failure : Failure}
    (goesOn : turn.fail host failure = (later, none)) :
    later.roundsLeft < turn.roundsLeft := by
  rw [fail] at goesOn
  split at goesOn
  · simp [resolvePaused, resolve] at goesOn
  · simp [resolve] at goesOn
  · rename_i running
    obtain rfl := (Prod.mk.inj goesOn).1
    by_cases empty : turn.upload.pool.idle.isEmpty <;>
      simp [roundsLeft, verdictsLeft, note, clearPool, withPool, wake,
        running, empty]

/-- The rounds left once the cutter of a calm turn has been replaced. -/
theorem roundsLeft_withCutter
    {before after : Turn World Content Phase} (calm : Calm before after)
    {cutter : Cutter Content} {parts : Nat}
    (plan : cutter.plan = before.upload.cutter.plan)
    (emitted : cutter.emitted = before.upload.cutter.emitted + parts) :
    (after.withCutter cutter).roundsLeft + parts ≤ before.roundsLeft := by
  have fewer := calm.roundsLeft_le
  have bound := cutter.emitted_le
  rw [roundsLeft] at fewer ⊢
  rw [calm.cutter] at fewer
  rw [plan] at bound
  simp only [withCutter, plan]
  omega

theorem roundsLeft_cutPart (host : Host World Content Phase)
    {turn later : Turn World Content Phase}
    (unfinished : turn.upload.session.sourceDone = false)
    (goesOn : turn.cutPart host = (later, none)) :
    later.roundsLeft < turn.roundsLeft := by
  have calm : Calm turn (turn.upload.cutter.poll (content host) turn).1 :=
    Cutter.poll_world (R := Calm) Calm.refl Calm.trans
      (fun turn _ => calm_hear turn _) turn turn.upload.cutter
  have cut := Cutter.poll_cutter (content host) turn turn.upload.cutter
  rw [cutPart] at goesOn
  generalize turn.upload.cutter.poll (content host) turn = polled
    at calm cut goesOn
  rcases polled with ⟨after, cutter, outcome⟩
  have fewer := roundsLeft_withCutter calm cut.1 cut.2
  cases outcome with
  | pending => simp [finishCut] at goesOn
  | broken panic => simp [finishCut] at goesOn
  | part body =>
      obtain rfl := (Prod.mk.inj goesOn).1
      refine Nat.lt_of_le_of_lt
        (calm_sendPart host _ body).roundsLeft_le ?_
      exact Nat.lt_of_lt_of_le (Nat.lt_succ_self _) fewer
  | failed failure =>
      exact Nat.lt_of_lt_of_le (roundsLeft_fail host goesOn) fewer
  | ended =>
      obtain rfl := (Prod.mk.inj goesOn).1
      refine Nat.lt_of_lt_of_le ?_ fewer
      have same : after.upload.session.sourceDone = false :=
        calm.sourceDone.trans unfinished
      simp [roundsLeft, noteHere, note, withSession, withCutter, same]
      omega

theorem roundsLeft_beginClosing (host : Host World Content Phase)
    {turn later : Turn World Content Phase}
    (may : turn.upload.session.mayComplete)
    (goesOn : turn.beginClosing host = (later, none)) :
    later.roundsLeft < turn.roundsLeft := by
  have fresh : turn.upload.session.completing = false := by
    simp only [Session.mayComplete, Bool.and_eq_true] at may
    simpa using may.2
  rw [beginClosing] at goesOn
  simp only at goesOn
  split at goesOn
  · simp at goesOn
  · obtain rfl := (Prod.mk.inj goesOn).1
    simp [roundsLeft, noteHere, note, withSession, fresh]

theorem roundsLeft_awaitParts (host : Host World Content Phase)
    {turn later : Turn World Content Phase}
    (goesOn : turn.awaitParts host = (later, none)) :
    later.roundsLeft < turn.roundsLeft := by
  have calm : Calm turn (turn.drainPool host).1 := calm_drain host _ turn
  rw [awaitParts] at goesOn
  generalize turn.drainPool host = drained at calm goesOn
  rcases drained with ⟨after, outcome⟩
  refine Nat.lt_of_lt_of_le ?_ calm.roundsLeft_le
  cases outcome with
  | failed failure => exact roundsLeft_fail host goesOn
  | pending => simp [flushed] at goesOn
  | empty =>
      rw [flushed] at goesOn
      split at goesOn
      · rename_i may
        exact roundsLeft_beginClosing host may goesOn
      · simp at goesOn

theorem roundsLeft_advance (host : Host World Content Phase)
    {turn later : Turn World Content Phase}
    (goesOn : turn.advance host = (later, none)) :
    later.roundsLeft < turn.roundsLeft := by
  have calm : Calm turn (turn.drainPool host).1 := calm_drain host _ turn
  rw [advance] at goesOn
  generalize turn.drainPool host = drained at calm goesOn
  rcases drained with ⟨after, outcome⟩
  refine Nat.lt_of_lt_of_le ?_ calm.roundsLeft_le
  have onward :
      after.onward id (awaitParts host) (cutPart host) = (later, none) →
      later.roundsLeft < after.roundsLeft := by
    intro goesOn
    rw [Turn.onward] at goesOn
    split at goesOn
    · simp at goesOn
    · split at goesOn
      · exact roundsLeft_awaitParts host goesOn
      · rename_i unfinished
        exact roundsLeft_cutPart host (by simpa using unfinished) goesOn
  cases outcome with
  | failed failure => exact roundsLeft_fail host goesOn
  | pending => exact onward goesOn
  | empty => exact onward goesOn

theorem roundsLeft_awaitClosing (host : Host World Content Phase)
    {turn later : Turn World Content Phase} {closing : Closing Phase}
    (goesOn : turn.awaitClosing host closing = (later, none)) :
    later.roundsLeft < turn.roundsLeft := by
  rw [awaitClosing] at goesOn
  split at goesOn
  · simp [dropClosing, resolvePaused, resolve] at goesOn
  · simp only at goesOn
    generalize host.poll turn.world turn.upload.session
      (.complete turn.upload.session.target closing.receipts)
      closing.phase = reply at goesOn
    have calm := calm_hear turn reply
    refine Nat.lt_of_lt_of_le ?_ calm.roundsLeft_le
    split at goesOn
    · split at goesOn <;>
        simp [dropClosing, resolvePaused, resolve] at goesOn
    · split at goesOn
      · exact Nat.lt_of_lt_of_le (roundsLeft_fail host goesOn)
          (Nat.le_refl (turn.hear reply).roundsLeft)
      · simp [resolve] at goesOn
    · simp at goesOn

theorem roundsLeft_awaitAbort (host : Host World Content Phase)
    {turn later : Turn World Content Phase} {phase : Phase} :
    turn.awaitAbort host phase ≠ (later, none) := by
  intro goesOn
  rw [awaitAbort] at goesOn
  simp only at goesOn
  split at goesOn
  · simp at goesOn
  · simp [resolve] at goesOn
  · rename_i panic _ _
    exact nomatch panic

/-- A round that is followed by another leaves fewer to go. -/
theorem roundsLeft_round (host : Host World Content Phase)
    {turn later : Turn World Content Phase}
    (goesOn : turn.round host = (later, none)) :
    later.roundsLeft < turn.roundsLeft := by
  rw [round, enter] at goesOn
  split at goesOn
  · exact absurd goesOn (roundsLeft_awaitAbort host)
  · exact roundsLeft_awaitClosing host goesOn
  · split at goesOn
    · simp [resolvePaused, resolve] at goesOn
    · exact roundsLeft_advance host goesOn

/-! ## Polling -/

/-- Go round until there is an outcome. -/
def rounds (host : Host World Content Phase)
    (turn : Turn World Content Phase) :
    Turn World Content Phase × Outcome :=
  match _went : turn.round host with
  | (turn, some outcome) => (turn, outcome)
  | (later, none) => rounds host later
termination_by turn.roundsLeft
decreasing_by exact roundsLeft_round host _went

/-- A round comes first, and others follow if it has no outcome. -/
theorem rounds_eq (host : Host World Content Phase)
    (turn : Turn World Content Phase) :
    turn.rounds host =
      match turn.round host with
      | (turn, some outcome) => (turn, outcome)
      | (later, none) => later.rounds host := by
  rw [rounds]
  split
  · rename_i went
    rw [went]
  · rename_i went
    rw [went]

/-- Count the upload as started. -/
def activate (turn : Turn World Content Phase) :
    Turn World Content Phase :=
  let session := turn.upload.session
  if session.started then
    turn
  else
    let turn := turn.withSession { session with started := true }
    turn.noteHere
      (.active session.target.location session.plan.partCount
        session.progress.existing.size)

/--
What a poll begins with.  An upload that has resolved is not polled again,
and the poll says so.
-/
def begin {Next : Type} (ends : Turn World Content Phase × Outcome → Next)
    (go : Turn World Content Phase → Next)
    (turn : Turn World Content Phase) : Next :=
  if turn.upload.resolved then
    ends (turn, .faulted .alreadyResolved)
  else
    go turn.activate

end Turn

/-- Poll an upload. -/
def Upload.poll {World Content Phase : Type}
    (host : Host World Content Phase) (world : World)
    (upload : Upload Content Phase) :
    Turn World Content Phase × Outcome :=
  Turn.begin id (Turn.rounds host) { upload, world }

/-- A poll of an upload that has not resolved goes round. -/
theorem Upload.poll_of_unresolved {World Content Phase : Type}
    (host : Host World Content Phase) (world : World)
    {upload : Upload Content Phase} (unresolved : upload.resolved = false) :
    upload.poll host world =
      (Turn.activate { upload, world }).rounds host := by
  rw [poll, Turn.begin, unresolved]
  rfl

end Multipart
