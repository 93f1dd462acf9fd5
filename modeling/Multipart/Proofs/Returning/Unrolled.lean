import Multipart.Proofs.Cutter.Polling
import Multipart.Proofs.Returning.Passes
import Multipart.Proofs.Upload.Waking

/-!
# What the loops of a poll come to

Each pass of a poll leaves as it is what the poll comes to.  So whenever the
machine of the passes comes back, it does so with the outcome of the poll and
the upload that the poll leaves; the main statement is `Standing.value_pass`.
The requests are resolved in the same way however many passes are allowed for
that, if these are as many as there are requests.
-/

namespace Multipart

open Loop

variable {World Content Phase : Type}

/-! ## The cutter -/

namespace Cutter

/-- Each pass of a cutter leaves as it is what its poll comes to. -/
theorem value_pass (stream : Stream World Content) (world : World)
    (cutter : Cutter Content) :
    (Cutter.pass stream.source (world, cutter)).value
        (fun state => state.2.poll stream state.1) =
      cutter.poll stream world := by
  rw [Cutter.pass, poll_eq]
  rcases cutter.turn stream.source world with ⟨after, later, _ | outcome⟩
  · rfl
  · rfl

end Cutter

namespace Turn

variable (host : Host World Content Phase)

theorem size_drainOnce (turn : Turn World Content Phase) :
    (turn.drainOnce host).1.upload.pool.size ≤ turn.upload.pool.size := by
  have size := size_pollPool host turn.upload.pool.size 0 turn
  rw [drainOnce]
  split
  · rename_i answer
    rwa [answer] at size
  · rename_i answer
    rwa [answer] at size
  · rename_i later number result answer
    rw [answer, ← pool_land later number result] at size
    split
    · rename_i landed
      rwa [landed] at size
    · rename_i landed
      rwa [landed] at size

/-- A pass that goes on has resolved a request, and none is added. -/
theorem meets_drainPass (turn : Turn World Content Phase) :
    (turn.drainPass host).Meets
      (fun later => Calm turn later ∧
        later.upload.pool.size < turn.upload.pool.size)
      (fun drained => Calm turn drained.1 ∧
        drained.1.upload.pool.size ≤ turn.upload.pool.size) := by
  have calm := calm_drainOnce host turn
  have size := size_drainOnce host turn
  have left := leaves_drainOnce host turn
  rw [drainPass]
  generalize turn.drainOnce host = drained at calm size left
  rcases drained with ⟨later, _ | outcome⟩
  · exact ⟨calm, left⟩
  · exact ⟨calm, size⟩

/-- Resolving requests is one pass and then the others. -/
theorem drain_unroll (budget : Nat) (turn : Turn World Content Phase) :
    turn.drain host (budget + 1) =
      (turn.drainPass host).value (·.drain host budget) := by
  rw [drain, drainPass]
  rcases turn.drainOnce host with ⟨later, _ | outcome⟩
  · rfl
  · rfl

/-- More passes than there are requests change nothing. -/
theorem drain_succ (budget : Nat) {turn : Turn World Content Phase}
    (enough : turn.upload.pool.size ≤ budget) :
    turn.drain host (budget + 1) = turn.drain host budget := by
  induction budget generalizing turn with
  | zero =>
      have empty : turn.upload.pool.size = 0 := Nat.le_zero.mp enough
      simp only [drain, drainOnce, empty, pollPool,
        (Pool.isEmpty_iff_size _).mpr empty, if_true]
  | succ budget ih =>
      have meets := meets_drainPass host turn
      rw [drain_unroll, drain_unroll]
      generalize turn.drainPass host = pass at meets
      cases pass with
      | done drained => rfl
      | again later =>
          have fewer : later.upload.pool.size < turn.upload.pool.size :=
            meets.2
          exact ih (Nat.le_of_lt_succ (Nat.lt_of_lt_of_le fewer enough))

theorem drain_eq_drainPool {budget : Nat}
    {turn : Turn World Content Phase}
    (enough : turn.upload.pool.size ≤ budget) :
    turn.drain host budget = turn.drainPool host := by
  induction budget, enough using Nat.le_induction with
  | base => rfl
  | succ budget enough ih => rw [drain_succ host budget enough, ih]

/-- Each pass leaves as it is what resolving requests comes to. -/
theorem value_drainPass (turn : Turn World Content Phase) :
    (turn.drainPass host).value (·.drainPool host) =
      turn.drainPool host := by
  have meets := meets_drainPass host turn
  rw [← drain_eq_drainPool host (Nat.le_succ turn.upload.pool.size),
    drain_unroll]
  generalize turn.drainPass host = pass at meets
  cases pass with
  | done drained => rfl
  | again later =>
      exact (drain_eq_drainPool host (Nat.le_of_lt meets.2)).symm

end Turn

/-! ## The whole poll -/

namespace Standing

variable (host : Host World Content Phase)

/-- What the poll comes to after a round. -/
def resume : Turn World Content Phase × Option Outcome →
    Turn World Content Phase × Outcome
  | (turn, some outcome) => (turn, outcome)
  | (turn, none) => turn.rounds host

theorem resume_round (turn : Turn World Content Phase) :
    resume host (turn.round host) = turn.rounds host := by
  rw [Turn.rounds_eq]
  rcases turn.round host with ⟨later, _ | outcome⟩
  · rfl
  · rfl

/-- What the poll comes to from where it stands. -/
def value : Standing World Content Phase →
    Turn World Content Phase × Outcome
  | ⟨.entry, turn⟩ => turn.begin id (Turn.rounds host)
  | ⟨.round, turn⟩ => turn.rounds host
  | ⟨.clearing, turn⟩ => resume host (turn.advance host)
  | ⟨.cutting cutter, turn⟩ =>
    resume host
      (Turn.finishCut host (cutter.poll (Turn.content host) turn))
  | ⟨.flushing, turn⟩ => resume host (turn.awaitParts host)

theorem value_next
    (gone : Turn World Content Phase × Option Outcome) :
    (next gone).value (value host) = resume host gone := by
  rcases gone with ⟨turn, _ | outcome⟩ <;> rfl

theorem value_onward (turn : Turn World Content Phase) :
    (turn.onward next flush cut).value (value host) =
      resume host
        (turn.onward id (Turn.awaitParts host) (Turn.cutPart host)) := by
  rw [Turn.onward, Turn.onward]
  split
  · rfl
  · split
    · rfl
    · rfl

theorem value_cleared (drained : Turn World Content Phase × Turn.Drained) :
    (Turn.cleared next flush cut host drained).value (value host) =
      resume host
        (Turn.cleared id (Turn.awaitParts host) (Turn.cutPart host) host
          drained) := by
  rcases drained with ⟨turn, _ | _ | failure⟩
  · exact value_onward host turn
  · exact value_onward host turn
  · exact value_next host _

theorem value_enter (turn : Turn World Content Phase) :
    (turn.enter next clear host).value (value host) =
      resume host (turn.enter id (Turn.advance host) host) := by
  rw [Turn.enter, Turn.enter]
  split
  · exact value_next host _
  · exact value_next host _
  · split
    · exact value_next host _
    · rfl

/-- Each pass leaves as it is what the poll comes to. -/
theorem value_pass (standing : Standing World Content Phase) :
    (pass host standing).value (value host) = value host standing := by
  rcases standing with ⟨stage, turn⟩
  cases stage with
  | entry =>
      rw [pass, value, Turn.begin, Turn.begin]
      split
      · rfl
      · rfl
  | round =>
      rw [pass, value, ← resume_round, Turn.round]
      exact value_enter host turn
  | clearing =>
      rw [pass, value, Turn.advance, ← Turn.value_drainPass]
      refine Pass.value_within
        (fun drained => resume host
          (Turn.cleared id (Turn.awaitParts host) (Turn.cutPart host) host
            drained))
        ?_ (value_cleared host) _
      exact fun _ => rfl
  | cutting cutter =>
      rw [pass, value, ← Cutter.value_pass]
      refine Pass.value_within
        (fun polled => resume host (Turn.finishCut host polled)) ?_ ?_ _
      · exact fun _ => rfl
      · exact fun polled => value_next host (Turn.finishCut host polled)
  | flushing =>
      rw [pass, value, Turn.awaitParts, ← Turn.value_drainPass]
      refine Pass.value_within
        (fun drained => resume host (Turn.flushed host drained)) ?_ ?_ _
      · exact fun _ => rfl
      · exact fun drained => value_next host (Turn.flushed host drained)

end Standing

end Multipart
