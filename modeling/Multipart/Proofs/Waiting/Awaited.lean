import Multipart.Proofs.Cutter.Looking
import Multipart.Proofs.Upload.Keeping
import Multipart.Proofs.Upload.Waking
import Multipart.Proofs.Waiting.Poised

/-!
# What a pending round leaves behind

A round that ends pending leaves something behind that wakes the task once
more: a request that has not resolved, or a source that had no buffer yet.
There is a lemma for each way in which a round may end so.  One of them leaves
nothing in flight, since the upload may not be completed; there it is a pause
in the course of the very round that has woken the task.
-/

namespace Multipart

variable {World Content Phase : Type} {target : Target} {plan : Plan}
  {existing : PartTable Receipt}

namespace Turn

/-! ## The poll that may not complete an upload -/

/-- Holds of a round that ends since the upload may not be completed. -/
structure Declines (host : Host World Content Phase)
    (turn last : Turn World Content Phase) : Prop where
  opened : turn.upload.IsOpen
  unpaused : turn.upload.session.verdict ≠ .paused
  /-- Nothing is left to cut, nothing has failed and nothing is in flight. -/
  drained : ∃ middle drained,
    turn.drainPool host = (middle, drained) ∧
      (∀ failure, drained ≠ .failed failure) ∧
      middle.upload.hasRoom = true ∧
      middle.upload.session.sourceDone = true ∧
      middle.drainPool host = (last, .empty)
  refused : last.upload.session.mayComplete = false

/-- Such a round leaves the poll pending. -/
theorem Declines.round_eq {host : Host World Content Phase}
    {turn last : Turn World Content Phase}
    (declines : turn.Declines host last) :
    turn.round host = (last, some .pending) := by
  obtain ⟨middle, drained, first, fine, room, done, second⟩ :=
    declines.drained
  rw [round, enter, declines.opened.unaborted, declines.opened.unclosed]
  dsimp only
  rw [if_neg declines.unpaused, advance, first]
  have onward :
      middle.onward id (awaitParts host) (cutPart host) =
        (last, some .pending) := by
    rw [Turn.onward, if_neg (by simp [room]), if_pos done, awaitParts,
      second, flushed]
    exact if_neg (by simp [declines.refused])
  cases drained with
  | empty => exact onward
  | pending => exact onward
  | failed failure => exact absurd rfl (fine failure)

/-- Requests are resolved step by step, unless one fails. -/
theorem steps_drainPool (host : Host World Content Phase)
    {turn later : Turn World Content Phase} {drained : Drained}
    (opened : turn.upload.IsOpen)
    (drains : turn.drainPool host = (later, drained))
    (fine : ∀ failure, drained ≠ .failed failure) :
    Steps host turn.place later.place ∧ later.upload.IsOpen := by
  have reached := reached_drain host turn.upload.pool.size opened
  rw [show turn.drain host turn.upload.pool.size = _ from drains] at reached
  cases drained with
  | empty => exact reached.symm
  | pending => exact reached.symm
  | failed failure => exact absurd rfl (fine failure)

/--
An upload may not be completed with nothing in flight only if it was paused in
the course of the very round, and that has woken its task.
-/
theorem Declines.woken {host : Host World Content Phase}
    {turn last : Turn World Content Phase}
    (declines : turn.Declines host last)
    (driven : turn.upload.Driven target plan existing) :
    turn.upload.session.verdict = .running ∧
      last.upload.session.verdict = .paused ∧ last.woken = true := by
  obtain ⟨middle, drained, first, fine, room, done, second⟩ :=
    declines.drained
  obtain ⟨before, opened⟩ :=
    steps_drainPool host declines.opened first fine
  obtain ⟨after, unaborted⟩ :=
    steps_drainPool host opened second fun _ => nofun
  have driven' := Steps.driven (before.trans after) driven
  have unfailed {upload : Upload Content Phase} (opened : upload.IsOpen)
      (driven : upload.Driven target plan existing) :
      upload.session.verdict ≠ .failed := fun failed => by
    have begun := driven.sound.begun driven.unresolved failed
    rw [opened.unaborted] at begun
    cases begun
  have empty := leaves_drainPool host middle
  rw [second] at empty
  have idle : last.upload.session.inFlight = 0 :=
    (driven'.sound.counted driven'.unresolved
      (unfailed unaborted driven')).trans empty
  have ended : last.upload.session.sourceDone = true := by
    have calm : Calm middle (middle.drainPool host).1 :=
      calm_drain host _ middle
    rw [second] at calm
    exact calm.sourceDone.trans done
  have paused : last.upload.session.verdict = .paused := by
    cases verdict : last.upload.session.verdict with
    | paused => rfl
    | failed => exact absurd verdict (unfailed unaborted driven')
    | running =>
        have refused := declines.refused
        simp only [Session.mayComplete, ended, idle, verdict, decide_true,
          Bool.true_and, Bool.not_eq_false'] at refused
        exact absurd unaborted.unclosed
          (driven'.poised.closes ⟨verdict, driven'.unresolved⟩ refused)
  refine ⟨?_, paused, ?_⟩
  · cases verdict : turn.upload.session.verdict with
    | running => rfl
    | paused => exact absurd verdict declines.unpaused
    | failed => exact absurd verdict (unfailed declines.opened driven)
  · have stirs : Stirs turn last := by
      have early := stirs_drain host turn.upload.pool.size turn
      have late := stirs_drain host middle.upload.pool.size middle
      rw [show turn.drain host turn.upload.pool.size = _ from first] at early
      rw [show middle.drain host middle.upload.pool.size = _ from second]
        at late
      exact early.trans late
    exact (stirs.paused paused).resolve_left declines.unpaused

end Turn

/-! ## Polls that end pending -/

/-- No failure leaves a poll pending. -/
theorem Turn.fail_ne_pending (host : Host World Content Phase)
    (turn : Turn World Content Phase) (failure : Failure) :
    (turn.fail host failure).2 ≠ some .pending := by
  rw [(place_fail host turn failure).2]
  intro pending
  obtain ⟨ending, same⟩ := Upload.outcome_fail host pending.symm
  cases same

/-- In the middle of a poll moments are added, and none is taken back. -/
theorem Steps.history_prefix {host : Host World Content Phase}
    {place later : Place (Recorded World) Content (Marked Phase)}
    (steps : Steps host.recording place later) :
    place.world.history <+: later.world.history := by
  have tells : Tells fun _ history => place.world.history <+: history :=
    { note := fun known _ => known.trans (List.prefix_append _ _)
      pause := fun known => known.trans (List.prefix_append _ _)
      congr := fun known _ _ _ => known
      fail := fun known _ => known }
  induction steps with
  | refl => exact List.prefix_refl _
  | tail before step ih => exact tells.step ih step

/-- Holds when the source was asked last, and had no buffer yet. -/
def History.Starves (before after : History) : Prop :=
  ∃ given moment pauses, after = before ++ given ++ moment :: pauses ∧
    moment.event = .pulled ∧
    ∀ pause ∈ pauses, ∃ answer, pause.event = .paused answer

theorem History.Starves.from {first second third : History}
    (before : first <+: second) (starves : second.Starves third) :
    first.Starves third := by
  rcases before with ⟨front, rfl⟩
  rcases starves with ⟨given, moment, pauses, rfl, pulled, each⟩
  exact ⟨front ++ given, moment, pauses, by simp, pulled, each⟩

/-- An upload with a request that has not resolved has requests. -/
theorem Upload.requests_ne_nil {upload : Upload Content Phase}
    (waits : upload.pool.size ≠ 0 ∨ upload.closing ≠ none ∨
      upload.abort ≠ none) : upload.requests ≠ [] := by
  intro none
  simp only [requests, List.append_eq_nil_iff, List.map_eq_nil_iff,
    Option.toList_eq_nil_iff] at none
  rcases waits with some | closed | begun
  · rw [← Pool.length_flights, none.1.1] at some
    exact some rfl
  · exact closed none.1.2
  · exact begun none.2

namespace Turn

/--
Holds when something will wake the task once more, if it is not woken yet: an
upload that waits has no request left to poll, and has one that is unresolved
or starves for its source.
-/
def IsAwaited (before : History)
    (last : Turn (Recorded World) Content (Marked Phase)) : Prop :=
  last.woken = true ∨
    last.upload.pool.queued = [] ∧
      (last.upload.requests ≠ [] ∨ before.Starves last.world.history)

section Recording

variable {host : Host World Content Phase}
  {turn last : Turn (Recorded World) Content (Marked Phase)}

theorem IsAwaited.from {first second : History} (before : first <+: second)
    (awaited : last.IsAwaited second) : last.IsAwaited first :=
  awaited.imp_right fun awaited =>
    ⟨awaited.1, awaited.2.imp_right (.from before)⟩

theorem world_hear {Outcome : Type} (turn : Turn World Content Phase)
    (reply : Reply World Outcome) : (turn.hear reply).world = reply.world :=
  congrArg Place.world (place_hear turn reply)

/-- What is written down when the source is asked. -/
theorem history_pull (host : Host World Content Phase)
    (turn : Turn (Recorded World) Content (Marked Phase))
    (source : Content) :
    let pulled := (content host.recording).pull turn source
    ∃ (pauses given : History),
      pulled.1.world.history =
          turn.world.history ++
            ⟨turn.upload.session, .pulled⟩ :: pauses ++ given ∧
        given.map (·.event) = pulled.2.event?.toList ∧
        ∀ moment ∈ pauses, ∃ answer, moment.event = .paused answer := by
  intro pulled
  let raw := host.pull turn.world.world turn.upload.session source
  obtain ⟨pauses, same, each⟩ :=
    turn.world.history_witness turn.upload.session .pulled raw
      raw.outcome.event?
  have world : pulled.1.world = turn.world.witness turn.upload.session
      .pulled raw raw.outcome.event? := world_hear turn _
  refine ⟨pauses, _, (congrArg Recorded.history world).trans same, ?_, each⟩
  rw [List.map_map]
  exact List.map_id _

/-- A cutter that waits has asked its source last. -/
theorem starves_of_poll (going : turn.upload.cutter.finished = false)
    {after : Turn (Recorded World) Content (Marked Phase)}
    {cutter : Cutter Content}
    (polled :
      turn.upload.cutter.poll (content host.recording) turn =
        (after, cutter, .pending)) :
    History.Starves turn.world.history after.world.history := by
  obtain ⟨middle, filled, ⟨given, before⟩, look⟩ :=
    Cutter.poll_keeps
      (fun (later : Turn (Recorded World) Content (Marked Phase))
          (_ : Cutter Content) =>
        turn.world.history <+: later.world.history)
      (fun {later _ cutter _ _ _ _ _} before _ gives _ _ => by
        obtain ⟨pauses, given, same, _⟩ :=
          history_pull host later cutter.content
        rw [gives] at same
        rw [same, List.append_assoc]
        exact before.trans (List.prefix_append _ _))
      going (List.prefix_refl _)
  rw [polled] at look
  cases look with
  | waits needs gives =>
      obtain ⟨pauses, nothing, same, none, each⟩ :=
        history_pull host middle filled.content
      rw [gives] at same none
      obtain rfl := List.map_eq_nil_iff.mp none
      refine ⟨given, ⟨middle.upload.session, .pulled⟩, pauses, ?_, rfl, each⟩
      rw [before, same]
      exact List.append_nil _

/-- A part that is still to come leaves the source starving. -/
theorem isAwaited_cutPart (going : turn.upload.cutter.finished = false)
    (rests : turn.woken = true ∨ turn.upload.pool.queued = [])
    (ends : turn.cutPart host.recording = (last, some .pending)) :
    last.IsAwaited turn.world.history := by
  have stirs : Stirs turn
      (turn.upload.cutter.poll (content host.recording) turn).1 :=
    Cutter.poll_world (R := Stirs) Stirs.refl Stirs.trans
      (fun turn _ => stirs_hear turn _) turn turn.upload.cutter
  rw [cutPart] at ends
  cases polled : turn.upload.cutter.poll (content host.recording) turn with
  | mk after asked =>
      rcases asked with ⟨cutter, outcome⟩
      rw [polled] at stirs ends
      cases outcome with
      | pending =>
          obtain rfl := (Prod.mk.inj ends).1
          rcases rests with woken | none
          · exact .inl (stirs.woken woken)
          · rcases stirs.rests none with none | woken
            · have starves := starves_of_poll going polled
              exact .inr ⟨none, .inr starves⟩
            · exact .inl woken
      | part body => cases ends
      | ended => cases ends
      | broken panic => cases ends
      | failed failure =>
          exact absurd (congrArg Prod.snd ends) (fail_ne_pending _ _ _)

/-- A turn that goes on without a queue ends without one, or woken. -/
theorem isAwaited_hear {Outcome : Type} {before : History}
    (none : turn.upload.pool.flights = [])
    (reply : Reply (Recorded World) Outcome)
    (queued : last.upload.pool = (turn.hear reply).upload.pool)
    (woken : last.woken = (turn.hear reply).woken)
    (waits : last.upload.requests ≠ []) : last.IsAwaited before := by
  have idle : turn.upload.pool.queued = [] :=
    (List.append_eq_nil_iff.mp none).1
  rcases (stirs_hear turn reply).rests idle with rests | stirred
  · refine .inr ⟨?_, .inl waits⟩
    rw [queued]
    exact rests
  · exact .inl (woken.trans stirred)

theorem isAwaited_awaitAbort {phase : Marked Phase}
    (none : turn.upload.pool.flights = []) {before : History}
    (ends : turn.awaitAbort host.recording phase =
      (last, some .pending)) : last.IsAwaited before := by
  rw [awaitAbort] at ends
  dsimp only at ends
  split at ends
  · obtain rfl := (Prod.mk.inj ends).1
    exact isAwaited_hear none _ rfl rfl
      (Upload.requests_ne_nil (.inr (.inr (Option.some_ne_none _))))
  · cases congrArg Prod.snd ends
  · rename_i panic _ _
    exact Empty.elim panic

theorem isAwaited_awaitClosing {closing : Closing (Marked Phase)}
    (none : turn.upload.pool.flights = []) {before : History}
    (ends : turn.awaitClosing host.recording closing =
      (last, some .pending)) : last.IsAwaited before := by
  rw [awaitClosing] at ends
  split at ends
  · cases congrArg Prod.snd ends
  · dsimp only at ends
    split at ends
    · split at ends
      · cases congrArg Prod.snd ends
      · obtain rfl := (Prod.mk.inj ends).1
        exact isAwaited_hear none _ rfl rfl
          (Upload.requests_ne_nil (.inr (.inl (Option.some_ne_none _))))
    · split at ends
      · exact absurd (congrArg Prod.snd ends) (fail_ne_pending _ _ _)
      · cases congrArg Prod.snd ends
    · cases congrArg Prod.snd ends

/-- Beginning to complete an upload leaves no poll pending. -/
theorem beginClosing_ne_pending (host : Host World Content Phase)
    (turn : Turn World Content Phase) :
    (turn.beginClosing host).2 ≠ some .pending := by
  rw [beginClosing]
  dsimp only
  split <;> simp

/-- A pool that was drained is empty, woken, or waits with no queue. -/
theorem Drained.Leaves.isAwaited {drained : Drained} {before : History}
    (left : drained.Leaves last) (waits : last.upload.pool.size ≠ 0)
    (fine : ∀ failure, drained ≠ .failed failure) :
    last.IsAwaited before := by
  cases drained with
  | empty => exact absurd left waits
  | pending =>
      exact left.imp_right fun left =>
        ⟨left.1, .inl (Upload.requests_ne_nil (.inl left.2))⟩
  | failed failure => exact absurd rfl (fine failure)

/-- A pool that was drained has no queue, or the task is woken. -/
theorem Drained.Leaves.rests {drained : Drained}
    (left : drained.Leaves last)
    (fine : ∀ failure, drained ≠ .failed failure) :
    last.woken = true ∨ last.upload.pool.queued = [] := by
  cases drained with
  | empty =>
      right
      have none := List.eq_nil_of_length_eq_zero
        ((Pool.length_flights _).trans left)
      exact (List.append_eq_nil_iff.mp none).1
  | pending => exact left.imp_right And.left
  | failed failure => exact absurd rfl (fine failure)

/-- Waiting for the last parts leaves one of them, unless it declines. -/
theorem isAwaited_awaitParts {before : History}
    (declined : ∀ after, turn.drainPool host.recording = (after, .empty) →
      after.upload.session.mayComplete = false → after.woken = true)
    (ends : turn.awaitParts host.recording = (last, some .pending)) :
    last.IsAwaited before := by
  rw [awaitParts] at ends
  have left := leaves_drainPool host.recording turn
  cases drains : turn.drainPool host.recording with
  | mk after drained =>
      rw [drains] at ends left
      cases drained with
      | failed failure =>
          exact absurd (congrArg Prod.snd ends) (fail_ne_pending _ _ _)
      | pending =>
          obtain rfl := (Prod.mk.inj ends).1
          exact left.imp_right fun left =>
            ⟨left.1, .inl (Upload.requests_ne_nil (.inl left.2))⟩
      | empty =>
          rw [flushed] at ends
          split at ends
          · exact absurd (congrArg Prod.snd ends)
              (beginClosing_ne_pending _ _)
          · rename_i refused
            obtain rfl := (Prod.mk.inj ends).1
            exact .inl (declined after drains (Bool.eq_false_iff.mpr refused))

/-- An upload that goes on leaves something to wait for. -/
theorem isAwaited_advance (opened : turn.upload.IsOpen)
    (unpaused : turn.upload.session.verdict ≠ .paused)
    (driven : turn.upload.Driven target plan existing)
    (ends : turn.advance host.recording = (last, some .pending)) :
    last.IsAwaited turn.world.history := by
  rw [advance] at ends
  have left := leaves_drainPool host.recording turn
  cases drains : turn.drainPool host.recording with
  | mk middle drained =>
      rw [drains] at ends left
      by_cases fine : ∀ failure, drained ≠ .failed failure
      · obtain ⟨steps, still⟩ :=
          steps_drainPool host.recording opened drains fine
        have driven' := steps.driven driven
        have onward :
            middle.onward id (awaitParts host.recording)
              (cutPart host.recording) = (last, some .pending) := by
          cases drained with
          | empty => exact ends
          | pending => exact ends
          | failed failure => exact absurd rfl (fine failure)
        rw [Turn.onward] at onward
        split at onward
        · rename_i full
          obtain rfl := (Prod.mk.inj onward).1
          exact left.isAwaited
            (driven'.poised.size_ne_zero (Bool.eq_false_iff.mpr full)) fine
        · rename_i room
          have room : middle.upload.hasRoom = true := by simpa using room
          split at onward
          · rename_i done
            refine isAwaited_awaitParts (fun after second refused => ?_)
              onward
            have declines : turn.Declines host.recording after :=
              ⟨opened, unpaused,
                ⟨middle, drained, drains, fine, room, done, second⟩,
                refused⟩
            exact (declines.woken driven).2.2
          · rename_i unfinished
            have may : middle.upload.MayCut :=
              { still with
                room := room
                unfinished := by simpa using unfinished }
            have going := driven'.sound.unfinished driven'.unresolved may
            refine .from ?_ (isAwaited_cutPart going ?_ onward)
            · exact Steps.history_prefix steps
            · exact left.rests fine
      · obtain ⟨failure, rfl⟩ : ∃ failure, drained = .failed failure := by
          simpa using fine
        exact absurd (congrArg Prod.snd ends) (fail_ne_pending _ _ _)

theorem isAwaited_round (driven : turn.upload.Driven target plan existing)
    (ends : turn.round host.recording = (last, some .pending)) :
    last.IsAwaited turn.world.history := by
  rw [round, enter] at ends
  split at ends
  · rename_i phase begun
    exact isAwaited_awaitAbort
      (driven.poised.aborts (by
        rw [begun]
        exact Option.some_ne_none _)) ends
  · rename_i closing unaborted closed
    exact isAwaited_awaitClosing
      (driven.sound.closing closing closed).alone ends
  · rename_i unaborted unclosed
    split at ends
    · cases congrArg Prod.snd ends
    · rename_i unpaused
      exact isAwaited_advance ⟨unaborted, unclosed⟩ unpaused driven ends

/-- The rounds of a poll that others follow. -/
abbrev Rounds (host : Host World Content Phase) :
    Turn World Content Phase → Turn World Content Phase → Prop :=
  Relation.ReflTransGen fun before after =>
    before.round host = (after, none)

theorem Rounds.steps {host : Host World Content Phase}
    {turn later : Turn World Content Phase}
    (rounds : turn.Rounds host later) :
    Steps host turn.place later.place := by
  induction rounds with
  | refl => exact .refl
  | @tail middle later before went ih =>
      have arrives := arrives_round host middle
      rw [went] at arrives
      exact ih.trans arrives.steps

/-- A poll ends with a round that follows others. -/
theorem rounds_last (host : Host World Content Phase)
    (turn : Turn World Content Phase) :
    ∃ middle, turn.Rounds host middle ∧
      middle.round host =
        ((turn.rounds host).1, some (turn.rounds host).2) := by
  fun_induction rounds host turn with
  | case1 turn later outcome went => exact ⟨turn, .refl, went⟩
  | case2 turn later went ih =>
      obtain ⟨middle, rounds, last⟩ := ih
      exact ⟨middle, rounds.head went, last⟩

/-- A poll is where its last round leads to. -/
theorem Rounds.rounds_eq_last {host : Host World Content Phase}
    {turn middle last : Turn World Content Phase} {outcome : Outcome}
    (rounds : turn.Rounds host middle)
    (ends : middle.round host = (last, some outcome)) :
    turn.rounds host = (last, outcome) := by
  induction rounds using Relation.ReflTransGen.head_induction_on with
  | refl =>
      rw [Turn.rounds_eq, ends]
  | head went _ ih =>
      rw [Turn.rounds_eq, went]
      exact ih

end Recording

end Turn

end Multipart
