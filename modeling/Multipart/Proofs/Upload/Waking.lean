import Multipart.Proofs.Upload.Recording
import Multipart.Proofs.Upload.Sound

/-!
# What wakes a task

The task that drives an upload is woken by a first pause and by a request that
was idle.  So whatever a host signals in the middle of a turn, a request that
has to be polled again or a pause that was not there before leaves the task
woken.  Asking the pool for resolved requests uses up its queue, and what is
left of it is told here for each way in which that may end.
-/

namespace Multipart

variable {World Content Phase : Type}

namespace Turn

/-! ## What may happen in the middle of a turn -/

/-- How a turn goes on: nothing comes up that does not wake its task. -/
structure Stirs (before after : Turn World Content Phase) : Prop where
  woken : before.woken = true → after.woken = true
  paused : after.upload.session.verdict = .paused →
    before.upload.session.verdict = .paused ∨ after.woken = true
  rests : before.upload.pool.queued = [] →
    after.upload.pool.queued = [] ∨ after.woken = true

theorem Stirs.refl (turn : Turn World Content Phase) : Stirs turn turn :=
  ⟨id, .inl, .inl⟩

theorem Stirs.trans {first second third : Turn World Content Phase}
    (left : Stirs first second) (right : Stirs second third) :
    Stirs first third where
  woken := right.woken ∘ left.woken
  paused done := by
    rcases right.paused done with paused | woken
    · exact (left.paused paused).imp_right right.woken
    · exact .inr woken
  rests none := by
    rcases left.rests none with none | woken
    · exact right.rests none
    · exact .inr (right.woken woken)

/-- A turn whose task is woken may change otherwise. -/
theorem Stirs.of_woken {before after : Turn World Content Phase}
    (woken : after.woken = true) : Stirs before after :=
  ⟨fun _ => woken, fun _ => .inr woken, fun _ => .inr woken⟩

/-- A turn may change as long as it queues no request. -/
theorem Stirs.of_queued {before after : Turn World Content Phase}
    (woken : after.woken = before.woken)
    (verdict :
      after.upload.session.verdict = before.upload.session.verdict)
    (queued : before.upload.pool.queued = [] →
      after.upload.pool.queued = []) : Stirs before after where
  woken := woken.trans
  paused done := .inl (verdict.symm.trans done)
  rests none := .inl (queued none)

theorem stirs_pauseHere (turn : Turn World Content Phase) :
    Stirs turn turn.pauseHere := by
  unfold pauseHere Upload.pause
  rcases turn.upload.session.pause_cases with
    ⟨same, _⟩ | ⟨same, _⟩ | ⟨same, _⟩ <;> rw [same]
  · exact Stirs.refl _
  · exact Stirs.refl _
  · exact .of_woken rfl

theorem stirs_signal (turn : Turn World Content Phase) (signal : Signal) :
    Stirs turn (turn.signal signal) := by
  cases signal with
  | pause => exact stirs_pauseHere turn
  | wakePart number =>
      show Stirs turn (if _ then _ else _)
      split
      · exact .of_woken rfl
      · exact Stirs.refl _
  | wakeDriver => exact .of_woken rfl
  | note entry => exact .of_queued rfl rfl id

theorem stirs_receive (turn : Turn World Content Phase)
    (signals : List Signal) : Stirs turn (turn.receive signals) := by
  induction signals generalizing turn with
  | nil => exact Stirs.refl _
  | cons first signals ih => exact (stirs_signal turn first).trans (ih _)

theorem stirs_hear {Outcome : Type} (turn : Turn World Content Phase)
    (reply : Reply World Outcome) : Stirs turn (turn.hear reply) := by
  have start : Stirs turn { turn with world := reply.world } :=
    .of_queued rfl rfl id
  exact start.trans (stirs_receive _ _)

theorem heard_hear {Outcome : Type} (turn : Turn World Content Phase)
    (reply : Reply World Outcome) :
    Upload.Heard turn.upload (turn.hear reply).upload := by
  have reached := congrArg Place.upload (place_hear turn reply)
  rw [show (turn.hear reply).upload = _ from reached]
  exact turn.place.heard reply

/-! ## What is left of a pool -/

/-- What polling one request of a pool makes of its size. -/
def Landing.Takes (before after : Nat) : Landing → Prop
  | .empty => False
  | .pending => after = before
  | .landed _ _ => after < before

section Polls

variable (host : Host World Content Phase)
  {turn : Turn World Content Phase} {flight : Flight Phase}
  {queued : List (Flight Phase)}

/-- A request that is polled stays in the pool, or is taken out of it. -/
theorem takes_pollFlight
    (front : turn.upload.pool.queued = flight :: queued) :
    (turn.pollFlight host flight queued).2.Takes turn.upload.pool.size
      (turn.pollFlight host flight queued).1.upload.pool.size := by
  have heard : Upload.Heard turn.upload
      ((turn.withPool (turn.upload.pool.polling flight queued)).hear
        (host.askPart turn.place flight)).upload :=
    (Upload.Heard.moved _ (Pool.flights_polling front)).trans
      (heard_hear
        (turn.withPool (turn.upload.pool.polling flight queued)) _)
  have size := heard.size
  have member := heard.numbers.mem_iff.mpr
    (List.mem_map_of_mem (Pool.mem_flights_of_front front))
  rw [pollFlight_eq]
  generalize (turn.withPool
    (turn.upload.pool.polling flight queued)).hear
      (host.askPart turn.place flight) = later at size member
  dsimp only
  split
  · rw [← size]
    exact Pool.size_remove_lt member
  · rename_i phase answer
    have same : (later.upload.pool.setPhase flight.number phase).size =
        turn.upload.pool.size :=
      (Pool.size_setPhase _ _ _).trans size
    split
    · rename_i other found
      split
      · rw [← same]
        exact Pool.size_remove_lt
          (List.mem_map_of_mem (List.mem_of_find?_eq_some found))
      · exact same
    · exact same
  · rename_i panic _ _
    exact Empty.elim panic

theorem stirs_drop (turn : Turn World Content Phase)
    (flight : Flight Phase) : Stirs turn (turn.drop flight) := by
  refine .of_queued rfl rfl fun none => ?_
  change turn.upload.pool.queued.filter _ = []
  rw [none]
  rfl

theorem stirs_pollFlight
    (front : turn.upload.pool.queued = flight :: queued) :
    Stirs turn (turn.pollFlight host flight queued).1 := by
  have polling : Stirs turn
      (turn.withPool (turn.upload.pool.polling flight queued)) := by
    refine .of_queued rfl rfl fun none => ?_
    cases front.symm.trans none
  have heard := polling.trans
    (stirs_hear _ (host.askPart turn.place flight))
  rw [pollFlight_eq]
  generalize (turn.withPool
    (turn.upload.pool.polling flight queued)).hear
      (host.askPart turn.place flight) = later at heard
  dsimp only
  split
  · refine heard.trans (.of_queued rfl rfl fun none => ?_)
    change later.upload.pool.queued.filter _ = []
    rw [none]
    rfl
  · rename_i phase answer
    have set : Stirs later (later.withPool
        (later.upload.pool.setPhase flight.number phase)) := by
      refine .of_queued rfl rfl fun none => ?_
      change later.upload.pool.queued.map _ = []
      rw [none]
      rfl
    split
    · split
      · exact (heard.trans set).trans (stirs_drop _ _)
      · exact heard.trans set
    · exact heard.trans set
  · rename_i panic _ _
    exact Empty.elim panic

theorem stirs_pollPool (remaining yields : Nat)
    (turn : Turn World Content Phase) :
    Stirs turn (turn.pollPool host remaining yields).1 := by
  induction remaining generalizing yields turn with
  | zero =>
      rw [pollPool]
      split
      · exact Stirs.refl _
      · exact .of_woken rfl
  | succ remaining ih =>
      rw [pollPool]
      split
      · split <;> exact Stirs.refl _
      · rename_i flight queued front
        split
        · exact stirs_drop _ _
        · have polled := stirs_pollFlight host front
          split
          · rename_i later answer
            rw [answer] at polled
            dsimp only
            generalize (if later.upload.pool.isQueued flight.number = true
              then yields + 1 else yields) = woken
            split
            · exact polled.trans (ih _ _)
            · exact .of_woken rfl
          · exact polled

/-- What is left when a pool was asked for a resolved request. -/
def Landing.Leaves (before after : Turn World Content Phase) :
    Landing → Prop
  | .empty => after.upload.pool.size = 0
  | .pending => after.woken = true ∨
      after.upload.pool.queued = [] ∧ after.upload.pool.size ≠ 0
  | .landed _ _ => after.upload.pool.size < before.upload.pool.size

/-- A pool is used up, or its queue is, or one of its requests resolves. -/
theorem leaves_pollPool (remaining yields : Nat)
    (turn : Turn World Content Phase) :
    (turn.pollPool host remaining yields).2.Leaves turn
      (turn.pollPool host remaining yields).1 := by
  induction remaining generalizing yields turn with
  | zero =>
      rw [pollPool]
      split
      · rename_i empty
        exact (Pool.isEmpty_iff_size _).mp empty
      · exact .inl rfl
  | succ remaining ih =>
      rw [pollPool]
      split
      · rename_i none
        split
        · rename_i empty
          exact (Pool.isEmpty_iff_size _).mp empty
        · rename_i left
          exact .inr ⟨none, mt (Pool.isEmpty_iff_size _).mpr left⟩
      · rename_i flight queued front
        split
        · exact Pool.size_remove_lt
            (List.mem_map_of_mem (Pool.mem_flights_of_front front))
        · have takes := takes_pollFlight host front
          split
          · rename_i later answer
            rw [answer] at takes
            dsimp only
            generalize (if later.upload.pool.isQueued flight.number = true
              then yields + 1 else yields) = woken
            split
            · have rest := ih woken later
              generalize later.pollPool host remaining woken = polled at rest
              rcases polled with ⟨last, landing⟩
              cases landing with
              | empty => exact rest
              | pending => exact rest
              | landed number result =>
                  exact Nat.lt_of_lt_of_eq rest takes
            · exact .inl rfl
          · rename_i landed
            generalize turn.pollFlight host flight queued = polled
              at takes landed
            rcases polled with ⟨last, landing⟩
            cases landing with
            | empty => exact takes.elim
            | pending => exact absurd rfl (landed last)
            | landed number result => exact takes

/-- Polling the requests of a pool adds none to it. -/
theorem size_pollPool (remaining yields : Nat)
    (turn : Turn World Content Phase) :
    (turn.pollPool host remaining yields).1.upload.pool.size ≤
      turn.upload.pool.size := by
  induction remaining generalizing yields turn with
  | zero =>
      rw [pollPool]
      split <;> exact Nat.le_refl _
  | succ remaining ih =>
      rw [pollPool]
      split
      · split <;> exact Nat.le_refl _
      · rename_i flight queued front
        split
        · exact Nat.le_of_lt (Pool.size_remove_lt
            (List.mem_map_of_mem (Pool.mem_flights_of_front front)))
        · have takes := takes_pollFlight host front
          split
          · rename_i polled answer
            rw [answer] at takes
            dsimp only
            generalize (if polled.upload.pool.isQueued flight.number = true
              then yields + 1 else yields) = woken
            split
            · exact (ih woken polled).trans (Nat.le_of_eq takes)
            · exact Nat.le_of_eq takes
          · rename_i landed
            generalize turn.pollFlight host flight queued = polled
              at takes landed
            rcases polled with ⟨last, landing⟩
            cases landing with
            | empty => exact takes.elim
            | pending => exact absurd rfl (landed last)
            | landed number result => exact Nat.le_of_lt takes

/-! ## What is left when requests were resolved -/

theorem stirs_land (turn : Turn World Content Phase)
    (number : PartNumber) (result : Option (Except Failure Receipt)) :
    Stirs turn (turn.land number result).1 := by
  rcases result with _ | _ | _ <;> exact .of_queued rfl rfl id

theorem pool_land (turn : Turn World Content Phase) (number : PartNumber)
    (result : Option (Except Failure Receipt)) :
    (turn.land number result).1.upload.pool = turn.upload.pool := by
  rcases result with _ | _ | _ <;> rfl

theorem stirs_drainOnce (turn : Turn World Content Phase) :
    Stirs turn (turn.drainOnce host).1 := by
  have polled := stirs_pollPool host turn.upload.pool.size 0 turn
  rw [drainOnce]
  split
  · rename_i answer
    rw [answer] at polled
    exact polled
  · rename_i answer
    rw [answer] at polled
    exact polled
  · rename_i later number result answer
    rw [answer] at polled
    have landed := stirs_land later number result
    split <;> rename_i outcome <;> rw [outcome] at landed <;>
      exact polled.trans landed

theorem stirs_drain (budget : Nat) (turn : Turn World Content Phase) :
    Stirs turn (turn.drain host budget).1 := by
  induction budget generalizing turn with
  | zero => exact Stirs.refl _
  | succ budget ih =>
      have once := stirs_drainOnce host turn
      rw [drain]
      split
      · rename_i went
        rw [went] at once
        exact once
      · rename_i went
        rw [went] at once
        exact once.trans (ih _)

/-- What is left when every request was resolved that could be. -/
def Drained.Leaves (after : Turn World Content Phase) : Drained → Prop
  | .empty => after.upload.pool.size = 0
  | .pending => after.woken = true ∨
      after.upload.pool.queued = [] ∧ after.upload.pool.size ≠ 0
  | .failed _ => True

/-- What is left when one request was resolved, or when none could be. -/
def Drained.LeavesOnce (before after : Turn World Content Phase) :
    Option Drained → Prop
  | none => after.upload.pool.size < before.upload.pool.size
  | some drained => drained.Leaves after

theorem leaves_drainOnce (turn : Turn World Content Phase) :
    Drained.LeavesOnce turn (turn.drainOnce host).1
      (turn.drainOnce host).2 := by
  have left := leaves_pollPool host turn.upload.pool.size 0 turn
  rw [drainOnce]
  split
  · rename_i answer
    rw [answer] at left
    exact left
  · rename_i answer
    rw [answer] at left
    exact left
  · rename_i later number result answer
    rw [answer] at left
    have pool := pool_land later number result
    split
    · exact trivial
    · rename_i after outcome
      rw [outcome] at pool
      exact Nat.lt_of_le_of_lt (congrArg Pool.size pool).le left

/-- Resolving as many requests as there are leaves none unseen. -/
theorem leaves_drain (budget : Nat) {turn : Turn World Content Phase}
    (enough : turn.upload.pool.size ≤ budget) :
    (turn.drain host budget).2.Leaves (turn.drain host budget).1 := by
  induction budget generalizing turn with
  | zero => exact Nat.le_zero.mp enough
  | succ budget ih =>
      have left := leaves_drainOnce host turn
      rw [drain]
      split
      · rename_i went
        rw [went] at left
        exact left
      · rename_i went
        rw [went] at left
        exact ih (Nat.le_of_lt_succ (Nat.lt_of_lt_of_le left enough))

theorem leaves_drainPool (turn : Turn World Content Phase) :
    (turn.drainPool host).2.Leaves (turn.drainPool host).1 :=
  leaves_drain host _ (Nat.le_refl _)

end Polls

end Turn

end Multipart
