import Multipart.Proofs.Returning.Loads

/-!
# Every poll returns

A poll goes on as long as something can be done at once.  Each of its passes
is the last or leaves less to do, so there are only so many of them, and
after these the poll comes back with its outcome; the main statement is
`polls_return`.  It holds for every state of an upload, with a limit on its
requests or without one, and for every host, whatever it signals and answers:
the host's polls of single requests come back, and its stream may give only
so many items, but how many of these are empty or are there at once does not
matter.
-/

namespace Multipart

open Loop

variable {World Content Phase : Type}

/-! ## The load of a poll -/

namespace Standing

variable (host : Host World Content Phase)

/-- How much a poll has left to do from where it stands. -/
def left : Standing World Content Phase → Nat
  | ⟨.entry, turn⟩ => turn.load host.size + 3
  | ⟨.round, turn⟩ => turn.load host.size + 2
  | ⟨.clearing, turn⟩ => turn.load host.size + 1
  | ⟨.cutting cutter, turn⟩ => (turn.withCutter cutter).load host.size
  | ⟨.flushing, turn⟩ => turn.load host.size

/-- A part is cut only as long as the content was not seen to end. -/
def Fits : Standing World Content Phase → Prop
  | ⟨.cutting _, turn⟩ => turn.upload.session.sourceDone = false
  | _ => True

/-- A pass that goes on leaves less to do than there was. -/
def Lessens (bound : Nat) : Passed World Content Phase → Prop :=
  Pass.Meets (fun later => later.Fits ∧ later.left host < bound)
    (fun _ => True)

variable {host} {bound : Nat}

theorem lessens_next {gone : Turn World Content Phase × Option Outcome}
    (fewer : ∀ {later}, gone = (later, none) →
      later.load host.size + 2 < bound) :
    Lessens host bound (next gone) := by
  rcases gone with ⟨later, _ | outcome⟩
  · exact ⟨trivial, fewer rfl⟩
  · exact trivial

variable (host)

theorem lessens_round (turn : Turn World Content Phase) :
    Lessens host (turn.load host.size + 2) (pass host ⟨.round, turn⟩) := by
  rw [pass, Turn.enter]
  split
  · refine lessens_next fun goesOn => ?_
    exact absurd goesOn (Turn.roundsLeft_awaitAbort host)
  · refine lessens_next fun goesOn => ?_
    exact Nat.lt_succ_of_lt
      (Nat.lt_succ_of_lt (Turn.load_awaitClosing host goesOn))
  · split
    · refine lessens_next fun goesOn => ?_
      simp [Turn.resolvePaused, Turn.resolve] at goesOn
    · exact ⟨trivial, Nat.lt_succ_self _⟩

theorem lessens_onward {turn : Turn World Content Phase}
    (load : turn.load host.size ≤ bound) :
    Lessens host (bound + 1) (turn.onward next flush cut) := by
  rw [Turn.onward]
  split
  · exact trivial
  · split
    · exact ⟨trivial, Nat.lt_succ_of_le load⟩
    · rename_i unfinished
      exact ⟨eq_false_of_ne_true unfinished, Nat.lt_succ_of_le load⟩

theorem lessens_cleared
    {drained : Turn World Content Phase × Turn.Drained}
    (load : drained.1.load host.size ≤ bound) :
    Lessens host (bound + 1)
      (Turn.cleared next flush cut host drained) := by
  rcases drained with ⟨turn, _ | _ | failure⟩
  · exact lessens_onward host load
  · exact lessens_onward host load
  · refine lessens_next fun goesOn => ?_
    have failed := Turn.load_fail host goesOn
    exact Nat.lt_succ_of_lt (Nat.lt_of_lt_of_le failed load)

theorem lessens_flushed
    {drained : Turn World Content Phase × Turn.Drained}
    (load : drained.1.load host.size ≤ bound) :
    Lessens host bound (next (Turn.flushed host drained)) := by
  refine lessens_next fun goesOn => Nat.lt_of_lt_of_le ?_ load
  exact Turn.load_flushed host goesOn

theorem lessens_cutting (turn : Turn World Content Phase)
    (cutter : Cutter Content)
    (unfinished : turn.upload.session.sourceDone = false) :
    Lessens host ((turn.withCutter cutter).load host.size)
      (pass host ⟨.cutting cutter, turn⟩) := by
  have meets := Cutter.meets_pass (Turn.content host)
    (R := fun before after => Turn.Calm before after ∧
      after.upload.pool.size = before.upload.pool.size)
    (fun turn => ⟨.refl turn, rfl⟩)
    (fun turn _ => ⟨Turn.calm_hear turn _, (Turn.heard_hear turn _).size⟩)
    turn cutter
  refine meets.within ?_ ?_
  · rintro ⟨later, drawn⟩ ⟨⟨calm, pool⟩, consumes⟩
    have saved := Turn.load_withCutter host.size 0 calm pool
      consumes.plan consumes.emitted
    have stream : drawn.streamLeft host.size < cutter.streamLeft host.size :=
      consumes.stream
    refine ⟨calm.sourceDone.trans unfinished, ?_⟩
    rw [left]
    dsimp only at saved ⊢
    omega
  · rintro ⟨later, polled, outcome⟩ ⟨⟨calm, pool⟩, concludes⟩
    refine lessens_next fun goesOn => ?_
    exact Turn.load_finishCut host unfinished calm pool concludes goesOn

/-- Each pass of a poll is the last, or leaves less to do. -/
theorem lessens_pass {standing : Standing World Content Phase}
    (fits : standing.Fits) :
    Lessens host (standing.left host) (pass host standing) := by
  rcases standing with ⟨stage, turn⟩
  cases stage with
  | entry =>
      rw [pass, Turn.begin]
      split
      · exact trivial
      · refine ⟨trivial, ?_⟩
        rw [left, left, Turn.load_activate]
        exact Nat.lt_succ_self _
  | round => exact lessens_round host turn
  | clearing =>
      refine (Turn.meets_drainPass host turn).within ?_ ?_
      · rintro later ⟨calm, fewer⟩
        have load := Turn.load_of_calm host.size 1 0 calm fewer
        exact ⟨trivial, Nat.succ_lt_succ load⟩
      · rintro drained ⟨calm, size⟩
        have load := Turn.load_of_calm host.size 0 0 calm size
        exact lessens_cleared host load
  | cutting cutter => exact lessens_cutting host turn cutter fits
  | flushing =>
      refine (Turn.meets_drainPass host turn).within ?_ ?_
      · rintro later ⟨calm, fewer⟩
        exact ⟨trivial, Turn.load_of_calm host.size 1 0 calm fewer⟩
      · rintro drained ⟨calm, size⟩
        have load := Turn.load_of_calm host.size 0 0 calm size
        exact lessens_flushed host load

/-- A poll that is about to begin. -/
def start (world : World) (upload : Upload Content Phase) :
    Standing World Content Phase :=
  ⟨.entry, { upload, world }⟩

theorem left_start_le (world : World) (upload : Upload Content Phase) :
    (start world upload).left host ≤
      4 * upload.cutter.partsLeft + upload.pool.size +
        upload.cutter.streamLeft host.size + 15 := by
  have verdicts : Turn.verdictsLeft upload.session.verdict ≤ 1 := by
    cases upload.session.verdict <;> decide
  have content := Bool.toNat_le (!upload.session.sourceDone)
  have closing := Bool.toNat_le (!upload.session.completing)
  simp only [start, left, Turn.load, Turn.roundsLeft, Cutter.partsLeft]
  omega

end Standing

/--
A poll comes back with its outcome after so many passes through its loops.
There are no more of them than a few for each part that is left to cut, one
for each request in flight and one for each item of the stream.
-/
theorem polls_return (host : Host World Content Phase) (world : World)
    (upload : Upload Content Phase) :
    ∃ count,
      count ≤ 4 * upload.cutter.partsLeft + upload.pool.size +
        upload.cutter.streamLeft host.size + 16 ∧
      Returns (Standing.pass host) (Standing.start world upload) count
        (upload.poll host world) := by
  have fits : (Standing.start world upload).Fits := trivial
  obtain ⟨count, result, few, returns⟩ :=
    returns_of_decreasing (Standing.lessens_pass host) fits
  have same : result = upload.poll host world :=
    returns.eq_value (Standing.value_pass host)
  have bound := Standing.left_start_le host world upload
  exact ⟨count, by omega, same ▸ returns⟩

end Multipart
