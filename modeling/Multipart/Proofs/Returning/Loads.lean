import Multipart.Proofs.Cutter.Looking
import Multipart.Proofs.Returning.Unrolled

/-!
# What a poll has left to do

Nothing that a poll does counts down by itself: a part that is cut is a
request more, a buffer may be empty and cut nothing, and a failure cuts off
what is left.  What every pass makes smaller is the load of the turn, which
weighs the rounds an upload may still go against its requests and what its
stream may still give.  Here is told what the cutter, the requests and the
rounds do to the load.
-/

namespace Multipart

open Loop

variable {World Content Phase : Type}

/-! ## The cutter -/

namespace Cutter

/-- How much the stream of a cutter may still give it. -/
def streamLeft (size : Content → Nat) (cutter : Cutter Content) : Nat :=
  if cutter.finished then 0 else size cutter.content

/-- How many parts are left to cut. -/
def partsLeft (cutter : Cutter Content) : Nat :=
  cutter.plan.partCount.toNat - cutter.emitted

theorem streamLeft_of_finished (size : Content → Nat)
    {cutter : Cutter Content} (finished : cutter.finished = true) :
    cutter.streamLeft size = 0 :=
  if_pos finished

/-- What a pass keeps of a cutter that goes on for a buffer. -/
structure Consumes (size : Content → Nat) (before after : Cutter Content) :
    Prop where
  plan : after.plan = before.plan
  emitted : after.emitted = before.emitted
  stream : after.streamLeft size < before.streamLeft size

/-- What a pass keeps of a cutter that tells an outcome. -/
structure Concludes (size : Content → Nat) (before after : Cutter Content)
    (outcome : Outcome) : Prop where
  plan : after.plan = before.plan
  emitted : after.emitted = before.emitted + outcome.parts
  stream : outcome ≠ .pending →
    after.streamLeft size ≤ before.streamLeft size

/-- A cutter that has finished does not draw on its stream any more. -/
theorem Concludes.of_finished {size : Content → Nat}
    {before after : Cutter Content} {outcome : Outcome}
    (plan : after.plan = before.plan)
    (emitted : after.emitted = before.emitted + outcome.parts)
    (finished : after.finished = true) :
    Concludes size before after outcome where
  plan
  emitted
  stream _ := by
    rw [streamLeft_of_finished size finished]
    exact Nat.zero_le _

section

variable {stream : Stream World Content} {world after : World}
  {cutter later : Cutter Content}

/-- A cutter that was given a smaller stream has less to draw on. -/
theorem streamLeft_lt_of_smaller (size : Content → Nat)
    (going : cutter.finished = false) (same : later.finished = false)
    (smaller : size later.content < size cutter.content) :
    later.streamLeft size < cutter.streamLeft size := by
  simpa [streamLeft, going, same] using smaller

/-- A look that comes to nothing uses up an item of the stream. -/
theorem Look.consumes (going : cutter.finished = false)
    (look : Look stream world cutter after later none) :
    Consumes stream.size cutter later := by
  cases look with
  | @fills _ _ _ _ _ smaller =>
      exact ⟨rfl, rfl,
        streamLeft_lt_of_smaller stream.size going going smaller⟩

/-- A look that comes to something draws on the stream once at most. -/
theorem Look.concludes {outcome : Outcome}
    (going : cutter.finished = false)
    (look : Look stream world cutter after later (some outcome)) :
    Concludes stream.size cutter later outcome := by
  cases look with
  | cuts | jams => exact ⟨rfl, rfl, fun _ => Nat.le_refl _⟩
  | waits => exact ⟨rfl, rfl, fun waits => absurd rfl waits⟩
  | @bursts _ _ _ _ _ smaller =>
      refine ⟨rfl, rfl, fun _ => Nat.le_of_lt ?_⟩
      exact streamLeft_lt_of_smaller stream.size going going smaller
  | exceeds | ends | lacks | breaks | overflows =>
      exact .of_finished rfl rfl rfl

end

/-- A pass asks the stream for one item at most, and uses it up. -/
theorem meets_pass (stream : Stream World Content)
    {R : World → World → Prop} (reflexive : ∀ world, R world world)
    (pulls : ∀ world content, R world (stream.pull world content).1)
    (world : World) (cutter : Cutter Content) :
    (Cutter.pass stream.source (world, cutter)).Meets
      (fun later =>
        R world later.1 ∧ Consumes stream.size cutter later.2)
      (fun polled => R world polled.1 ∧
        Concludes stream.size cutter polled.2.1 polled.2.2) := by
  rw [Cutter.pass]
  cases going : cutter.finished with
  | true =>
      rw [turn_of_ended _ _ (demand_of_finished going)]
      exact ⟨reflexive world, rfl, rfl, fun _ => Nat.le_refl _⟩
  | false =>
      have look := look_turn stream world going
      have still := turn_world (R := R world) stream.source world cutter
        (reflexive world) (pulls world)
      generalize cutter.turn stream.source world = turned at look still
      rcases turned with ⟨after, later, _ | outcome⟩
      · exact ⟨still, look.consumes going⟩
      · exact ⟨still, look.concludes going⟩

end Cutter

/-! ## The load of a turn -/

namespace Turn

variable {before after turn later : Turn World Content Phase}

/-- How much a poll may still do in the rounds that are left. -/
def load (size : Content → Nat) (turn : Turn World Content Phase) : Nat :=
  4 * turn.roundsLeft + turn.upload.pool.size +
    turn.upload.cutter.streamLeft size

/-- The load of a calm turn changes only with its requests. -/
theorem load_of_calm (size : Content → Nat) (gone come : Nat)
    (calm : Calm before after)
    (pool : after.upload.pool.size + gone ≤
      before.upload.pool.size + come) :
    after.load size + gone ≤ before.load size + come := by
  have rounds := calm.roundsLeft_le
  rw [load, load, calm.cutter]
  omega

/-- A round less to go makes up for a request more and for its passes. -/
theorem load_of_round (size : Content → Nat)
    (rounds : later.roundsLeft < turn.roundsLeft)
    (pool : later.upload.pool.size ≤ turn.upload.pool.size + 1)
    (cutter : later.upload.cutter = turn.upload.cutter) :
    later.load size + 2 < turn.load size := by
  rw [load, load, cutter]
  omega

theorem load_hear (size : Content → Nat) {Outcome : Type}
    (turn : Turn World Content Phase) (reply : Reply World Outcome) :
    (turn.hear reply).load size ≤ turn.load size :=
  load_of_calm size 0 0 (calm_hear turn reply)
    (Nat.le_of_eq (heard_hear turn reply).size)

section Rounds

variable (host : Host World Content Phase)

/-- Only an upload that was running goes on when it has failed. -/
theorem load_fail {failure : Failure}
    (goesOn : turn.fail host failure = (later, none)) :
    later.load host.size + 2 < turn.load host.size := by
  have rounds := roundsLeft_fail host goesOn
  rw [fail] at goesOn
  split at goesOn
  · simp [resolvePaused, resolve] at goesOn
  · simp [resolve] at goesOn
  · obtain rfl := (Prod.mk.inj goesOn).1
    refine load_of_round host.size rounds (Nat.zero_le _) ?_
    by_cases empty : turn.upload.pool.idle.isEmpty <;>
      simp [note, clearPool, withPool, wake, empty]

theorem load_awaitClosing {closing : Closing Phase}
    (goesOn : turn.awaitClosing host closing = (later, none)) :
    later.load host.size + 2 < turn.load host.size := by
  rw [awaitClosing] at goesOn
  split at goesOn
  · simp [dropClosing, resolvePaused, resolve] at goesOn
  · simp only at goesOn
    generalize host.poll turn.world turn.upload.session
      (.complete turn.upload.session.target closing.receipts)
      closing.phase = reply at goesOn
    refine Nat.lt_of_lt_of_le ?_ (load_hear host.size turn reply)
    split at goesOn
    · split at goesOn <;>
        simp [dropClosing, resolvePaused, resolve] at goesOn
    · split at goesOn
      · exact Nat.lt_of_lt_of_le (load_fail host goesOn)
          (Nat.le_refl ((turn.hear reply).load host.size))
      · simp [resolve] at goesOn
    · simp at goesOn

theorem load_beginClosing (may : turn.upload.session.mayComplete)
    (goesOn : turn.beginClosing host = (later, none)) :
    later.load host.size + 2 < turn.load host.size := by
  have rounds := roundsLeft_beginClosing host may goesOn
  rw [beginClosing] at goesOn
  simp only at goesOn
  split at goesOn
  · simp at goesOn
  · obtain rfl := (Prod.mk.inj goesOn).1
    exact load_of_round host.size rounds (Nat.le_succ _) rfl

/-- Requests that were resolved after the last part add nothing. -/
theorem load_flushed {drained : Turn World Content Phase × Drained}
    (goesOn : flushed host drained = (later, none)) :
    later.load host.size + 2 < drained.1.load host.size := by
  rcases drained with ⟨turn, _ | _ | failure⟩
  · rw [flushed] at goesOn
    split at goesOn
    · rename_i may
      exact load_beginClosing host may goesOn
    · simp at goesOn
  · simp [flushed] at goesOn
  · exact load_fail host goesOn

/-- A part that is sent is a request more at most. -/
theorem load_sendPart (turn : Turn World Content Phase) (body : Bytes) :
    (turn.sendPart host body).load host.size ≤
      turn.load host.size + 1 := by
  refine load_of_calm host.size 0 1 (calm_sendPart host turn body) ?_
  rw [sendPart]
  dsimp only
  split
  · exact Nat.le_succ _
  · exact Nat.le_of_eq (Pool.size_push _ _)

/-- Content is seen to end only once. -/
theorem load_sourceDone (size : Content → Nat)
    (unfinished : turn.upload.session.sourceDone = false) :
    ((turn.noteHere .sourceDone).withSession
        { turn.upload.session with sourceDone := true }).load size + 2 <
      turn.load size := by
  refine load_of_round size ?_ (Nat.le_succ _) rfl
  simp [roundsLeft, noteHere, note, withSession, unfinished]

/-- A cutter that took the place of another saves the load it has less. -/
theorem load_withCutter (size : Content → Nat) (parts : Nat)
    (calm : Calm before after)
    (pool : after.upload.pool.size = before.upload.pool.size)
    {cutter polled : Cutter Content}
    (plan : polled.plan = cutter.plan)
    (emitted : polled.emitted = cutter.emitted + parts) :
    (after.withCutter polled).load size + 4 * parts +
        cutter.streamLeft size ≤
      (before.withCutter cutter).load size + polled.streamLeft size := by
  have within : Calm (before.withCutter cutter) (after.withCutter cutter) :=
    ⟨rfl, calm.sourceDone, calm.completing, calm.verdict⟩
  have rounds : (after.withCutter polled).roundsLeft + parts ≤
      (before.withCutter cutter).roundsLeft :=
    roundsLeft_withCutter within plan emitted
  rw [load, load]
  simp only [withCutter] at rounds ⊢
  omega

/-- A part that was cut weighs more than its request. -/
theorem load_finishCut {cutter polled : Cutter Content}
    {outcome : Cutter.Outcome}
    (unfinished : before.upload.session.sourceDone = false)
    (calm : Calm before after)
    (pool : after.upload.pool.size = before.upload.pool.size)
    (concludes : Cutter.Concludes host.size cutter polled outcome)
    (goesOn : finishCut host (after, polled, outcome) = (later, none)) :
    later.load host.size + 2 < (before.withCutter cutter).load host.size := by
  have saved := load_withCutter host.size outcome.parts calm pool
    concludes.plan concludes.emitted
  have stream := concludes.stream
  cases outcome with
  | pending | broken => simp [finishCut] at goesOn
  | part body =>
      obtain rfl := (Prod.mk.inj goesOn).1
      dsimp only
      have sent := load_sendPart host (after.withCutter polled) body
      have stream := stream (by simp)
      have one : (Cutter.Outcome.part body).parts = 1 := rfl
      omega
  | failed failure =>
      have failed := load_fail host goesOn
      have stream := stream (by simp)
      dsimp only at failed
      omega
  | ended =>
      obtain rfl := (Prod.mk.inj goesOn).1
      have ended : (after.withCutter polled).upload.session.sourceDone =
          false := calm.sourceDone.trans unfinished
      have stream := stream (by simp)
      have saved : (after.withCutter polled).load host.size ≤
          (before.withCutter cutter).load host.size := by omega
      exact Nat.lt_of_lt_of_le (load_sourceDone host.size ended) saved

theorem load_activate (size : Content → Nat)
    (turn : Turn World Content Phase) :
    turn.activate.load size = turn.load size := by
  rw [activate]
  split <;> rfl

end Rounds

end Turn

end Multipart
