import Multipart.Proofs.Cutter.Polling

/-!
# The last look of a cutter

A cutter that is polled draws buffers for as long as it needs them, and then
looks at its stream once more, or at the bytes it holds.  That last look
decides what the poll comes to: a part, an end, or one of the ways in which
content can fail or the poll break off.  The main statement,
`Cutter.poll_keeps`, takes every poll apart in this manner, so that what
filling the cutter keeps has to be known only until the last look.
-/

namespace Multipart

namespace Cutter

variable {World Content : Type}

/-- What a look at the bytes, and at the stream if need be, comes to. -/
inductive Look (stream : Stream World Content) (world : World)
    (cutter : Cutter Content) :
    World → Cutter Content → Option Outcome → Prop where
  /-- The cutter holds a part. -/
  | cuts {body rest : Bytes} (holds : cutter.demand = .part body rest) :
      Look stream world cutter world
        (cutter.cut rest (lt_of_demand_eq_part holds))
        (some (.part body))
  /-- The cutter holds bytes beyond the last part. -/
  | exceeds (holds : cutter.demand = .excess) :
      Look stream world cutter world cutter.finish
        (some (.failed cutter.wrongLength))
  /-- The cutter cannot tell how long the next part is. -/
  | jams {panic : Panic} (jammed : cutter.demand = .broken panic) :
      Look stream world cutter world cutter (some (.broken panic))
  /-- The stream has no buffer yet. -/
  | waits {after : World} {beginning : Bytes} {content : Content}
      (needs : cutter.demand = .input beginning)
      (gives :
        stream.pull world cutter.content = (after, .pending content)) :
      Look stream world cutter after (cutter.empty beginning content)
        (some .pending)
  /-- The stream has ended after the last part. -/
  | ends {after : World} {beginning : Bytes} {content : Content}
      (needs : cutter.demand = .input beginning)
      (gives : stream.pull world cutter.content = (after, .ended content))
      (complete : cutter.isComplete = true) :
      Look stream world cutter after
        (cutter.empty beginning content).finish (some .ended)
  /-- The stream has ended before the last part. -/
  | lacks {after : World} {beginning : Bytes} {content : Content}
      (needs : cutter.demand = .input beginning)
      (gives : stream.pull world cutter.content = (after, .ended content))
      (incomplete : cutter.isComplete = false) :
      Look stream world cutter after
        (cutter.empty beginning content).finish
        (some (.failed cutter.wrongLength))
  /-- The stream has failed. -/
  | breaks {after : World} {beginning : Bytes} {failure : Failure}
      {content : Content}
      {smaller : stream.size content < stream.size cutter.content}
      (needs : cutter.demand = .input beginning)
      (gives :
        stream.pull world cutter.content =
          (after, .item (.error failure) content smaller)) :
      Look stream world cutter after
        (cutter.empty beginning content).finish (some (.failed failure))
  /-- The stream gives more bytes than can be counted. -/
  | bursts {after : World} {beginning buffer : Bytes}
      {content : Content} {panic : Panic}
      {smaller : stream.size content < stream.size cutter.content}
      (needs : cutter.demand = .input beginning)
      (gives :
        stream.pull world cutter.content =
          (after, .item (.ok buffer) content smaller))
      (uncounted :
        Word.add cutter.received buffer.length = .error panic) :
      Look stream world cutter after (cutter.empty beginning content)
        (some (.broken panic))
  /-- The stream gives bytes beyond the last part. -/
  | overflows {after : World} {beginning buffer : Bytes}
      {content : Content} {received : UInt64}
      {smaller : stream.size content < stream.size cutter.content}
      (needs : cutter.demand = .input beginning)
      (gives :
        stream.pull world cutter.content =
          (after, .item (.ok buffer) content smaller))
      (counted : Word.add cutter.received buffer.length = .ok received)
      (complete : cutter.isComplete = true) (some : buffer ≠ []) :
      Look stream world cutter after
        { (cutter.fill beginning buffer content received).finish with
          rest := [] }
        (.some (.failed
          (cutter.fill beginning buffer content received).wrongLength))
  /-- The stream gives a buffer, and the cutter has to look again. -/
  | fills {after : World} {beginning buffer : Bytes}
      {content : Content} {received : UInt64}
      {smaller : stream.size content < stream.size cutter.content}
      (needs : cutter.demand = .input beginning)
      (gives :
        stream.pull world cutter.content =
          (after, .item (.ok buffer) content smaller))
      (counted : Word.add cutter.received buffer.length = .ok received)
      (within : cutter.isComplete = true → buffer = []) :
      Look stream world cutter after
        (cutter.fill beginning buffer content received) none

theorem ask_source {stream : Stream World Content} {world after : World}
    {content : Content} {pull : Pull stream.size content}
    (gives : stream.pull world content = (after, pull)) :
    stream.source.ask world content = (after, pull.rest, pull.answer) := by
  simp [Stream.source, gives]

/-- A turn of a cutter that goes on is one look. -/
theorem look_turn (stream : Stream World Content) (world : World)
    {cutter : Cutter Content} (going : cutter.finished = false) :
    Look stream world cutter (cutter.turn stream.source world).1
      (cutter.turn stream.source world).2.1
      (cutter.turn stream.source world).2.2 := by
  cases held : cutter.demand with
  | ended =>
      have finished := finished_of_demand_eq_ended held
      rw [going] at finished
      cases finished
  | part body rest =>
      rw [turn_of_part _ _ held]
      exact .cuts held
  | excess =>
      rw [turn_of_excess _ _ held]
      exact .exceeds held
  | broken panic =>
      rw [turn_of_broken _ _ held]
      exact .jams held
  | input beginning =>
      rw [turn_of_input _ _ held]
      rcases gives : stream.pull world cutter.content with ⟨after, pull⟩
      rw [ask_source gives]
      cases pull with
      | pending content => exact .waits held gives
      | ended content =>
          dsimp only [Pull.rest, Pull.answer, heed]
          split
          · rename_i complete
            exact .ends held gives complete
          · rename_i incomplete
            exact .lacks held gives (Bool.eq_false_iff.mpr incomplete)
      | item item content smaller =>
          cases item with
          | error failure => exact .breaks held gives
          | ok buffer =>
              dsimp only [Pull.rest, Pull.answer, heed]
              split
              · rename_i uncounted
                exact .bursts held gives uncounted
              · rename_i counted
                split
                · rename_i excess
                  exact .overflows held gives counted excess.1
                    (by simpa using excess.2)
                · rename_i within
                  refine .fills held gives counted fun complete => ?_
                  simpa using fun some => within ⟨complete, some⟩

/--
A poll ends with a look at what keeps whatever drawing a needed buffer keeps.
-/
theorem poll_keeps {stream : Stream World Content}
    (Kept : World → Cutter Content → Prop)
    (fills : ∀ {world after : World} {cutter : Cutter Content}
        {beginning buffer : Bytes} {content : Content}
        {received : UInt64}
        {smaller : stream.size content < stream.size cutter.content},
      Kept world cutter → cutter.demand = .input beginning →
        stream.pull world cutter.content =
          (after, .item (.ok buffer) content smaller) →
        Word.add cutter.received buffer.length = .ok received →
        (cutter.isComplete = true → buffer = []) →
        Kept after (cutter.fill beginning buffer content received))
    {world : World} {cutter : Cutter Content}
    (going : cutter.finished = false) (kept : Kept world cutter) :
    ∃ middle filled, Kept middle filled ∧
      Look stream middle filled (cutter.poll stream world).1
        (cutter.poll stream world).2.1
        (some (cutter.poll stream world).2.2) := by
  fun_induction poll stream world cutter with
  | case1 world cutter after later outcome turned =>
      have look := look_turn stream world going
      rw [turned] at look
      exact ⟨world, cutter, kept, look⟩
  | case2 world cutter after later turned ih =>
      have look := look_turn stream world going
      rw [turned] at look
      cases look with
      | fills needs gives counted within =>
          exact ih going (fills kept needs gives counted within)

/-! ## Whether a cutter goes on -/

/-- A cutter goes on unless it has failed, or ended after its last part. -/
def GoesOn (later : Cutter Content) : Outcome → Prop
  | .pending => later.finished = false
  | .part _ => later.finished = false
  | .broken _ => later.finished = false
  | .ended =>
    later.finished = true ∧ later.emitted = later.plan.partCount.toNat
  | .failed _ => later.finished = true

theorem Look.goesOn {stream : Stream World Content} {world after : World}
    {cutter later : Cutter Content} {outcome : Outcome}
    (look : Look stream world cutter after later (some outcome))
    (going : cutter.finished = false) : GoesOn later outcome := by
  cases look with
  | ends _ _ complete => exact ⟨rfl, of_decide_eq_true complete⟩
  | cuts | jams | waits | bursts => exact going
  | exceeds | lacks | breaks | overflows => exact rfl

theorem goesOn_poll (stream : Stream World Content) (world : World)
    (cutter : Cutter Content) (going : cutter.finished = false) :
    GoesOn (cutter.poll stream world).2.1
      (cutter.poll stream world).2.2 := by
  fun_induction poll stream world cutter with
  | case1 world cutter after later outcome turned =>
      have look := look_turn stream world going
      rw [turned] at look
      exact look.goesOn going
  | case2 world cutter after later turned ih =>
      have look := look_turn stream world going
      rw [turned] at look
      cases look with
      | fills => exact ih going

end Cutter

end Multipart
