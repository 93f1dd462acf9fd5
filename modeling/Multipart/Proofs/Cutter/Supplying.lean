import Multipart.Cutter

/-!
# What finite streams give

Of a finite stream only so much matters as it gives until it first fails or
ends: buffers of any sizes, empty ones among them, and in between it may not
have anything yet.  A supply is this, written down beforehand.  Every supply
is given by some stream, and `Supply.supplies_stream` names one.
-/

namespace Multipart

variable {World Content : Type}

/-- What a stream gives until it first fails or ends. -/
inductive Supply where
  | ended
  | failed (failure : Failure)
  | pending (later : Supply)
  | given (buffer : Bytes) (later : Supply)

namespace Supply

/-- The bytes of all buffers, one after another. -/
def bytes : Supply → Bytes
  | .ended => []
  | .failed _ => []
  | .pending later => later.bytes
  | .given buffer later => buffer ++ later.bytes

/-- The failure at which a supply stops, if it is one. -/
def failure? : Supply → Option Failure
  | .ended => none
  | .failed failure => some failure
  | .pending later => later.failure?
  | .given _ later => later.failure?

/-- How often nothing is there yet. -/
def pendings : Supply → Nat
  | .ended => 0
  | .failed _ => 0
  | .pending later => later.pendings + 1
  | .given _ later => later.pendings

/--
How many bytes there are before the first buffer with which they are more
than a word can tell.  What comes after they are more than the limit is not
looked at.
-/
def overrun? (limit : Nat) : (count : Nat) → Supply → Option Nat
  | _, .ended => none
  | _, .failed _ => none
  | count, .pending later => later.overrun? limit count
  | count, .given buffer later =>
    if limit < count then
      none
    else if UInt64.size ≤ count + buffer.length then
      some count
    else
      later.overrun? limit (count + buffer.length)

/-- Only bytes that are more than a word can tell overrun it. -/
theorem size_le_of_overrun? {limit count before : Nat} {supply : Supply}
    (overruns : supply.overrun? limit count = some before) :
    UInt64.size ≤ count + supply.bytes.length := by
  induction supply generalizing count with
  | ended => cases overruns
  | failed failure => cases overruns
  | pending later ih => exact ih overruns
  | given buffer later ih =>
      rw [bytes, List.length_append]
      rw [overrun?] at overruns
      split at overruns
      · cases overruns
      · split at overruns
        · omega
        · have large := ih overruns
          omega

/-- Nothing is looked at once there are more bytes than the limit. -/
theorem overrun?_of_lt {limit count : Nat} (supply : Supply)
    (beyond : limit < count) : supply.overrun? limit count = none := by
  induction supply with
  | ended => rfl
  | failed failure => rfl
  | pending later ih => exact ih
  | given buffer later => exact if_pos beyond

end Supply

/-- Holds when a stream gives what a supply says, each time it is asked. -/
inductive Stream.Supplies (stream : Stream World Content) :
    World → Content → Supply → Prop where
  | ended {world after : World} {content rest : Content}
      (gives : stream.pull world content = (after, .ended rest)) :
      Supplies stream world content .ended
  | failed {world after : World} {content rest : Content}
      {failure : Failure}
      {smaller : stream.size rest < stream.size content}
      (gives :
        stream.pull world content =
          (after, .item (.error failure) rest smaller)) :
      Supplies stream world content (.failed failure)
  | pending {world after : World} {content rest : Content}
      {later : Supply}
      (gives : stream.pull world content = (after, .pending rest))
      (goesOn : Supplies stream after rest later) :
      Supplies stream world content (.pending later)
  | given {world after : World} {content rest : Content}
      {buffer : Bytes} {later : Supply}
      {smaller : stream.size rest < stream.size content}
      (gives :
        stream.pull world content =
          (after, .item (.ok buffer) rest smaller))
      (goesOn : Supplies stream after rest later) :
      Supplies stream world content (.given buffer later)

namespace Stream.Supplies

variable {stream : Stream World Content} {world after : World}
  {content rest : Content} {supply : Supply}

/-! ## What an answer says of a supply -/

theorem eq_ended (supplies : stream.Supplies world content supply)
    (gives : stream.pull world content = (after, .ended rest)) :
    supply = .ended := by
  cases supplies with
  | ended => rfl
  | failed other => cases other.symm.trans gives
  | pending other => cases other.symm.trans gives
  | given other => cases other.symm.trans gives

theorem eq_failed (supplies : stream.Supplies world content supply)
    {failure : Failure} {smaller : stream.size rest < stream.size content}
    (gives :
      stream.pull world content =
        (after, .item (.error failure) rest smaller)) :
    supply = .failed failure := by
  cases supplies with
  | ended other => cases other.symm.trans gives
  | failed other => cases other.symm.trans gives; rfl
  | pending other => cases other.symm.trans gives
  | given other => cases other.symm.trans gives

theorem eq_pending (supplies : stream.Supplies world content supply)
    (gives : stream.pull world content = (after, .pending rest)) :
    ∃ later, supply = .pending later ∧
      stream.Supplies after rest later := by
  cases supplies with
  | ended other => cases other.symm.trans gives
  | failed other => cases other.symm.trans gives
  | pending other goesOn =>
      cases other.symm.trans gives
      exact ⟨_, rfl, goesOn⟩
  | given other => cases other.symm.trans gives

theorem eq_given (supplies : stream.Supplies world content supply)
    {buffer : Bytes} {smaller : stream.size rest < stream.size content}
    (gives :
      stream.pull world content =
        (after, .item (.ok buffer) rest smaller)) :
    ∃ later, supply = .given buffer later ∧
      stream.Supplies after rest later := by
  cases supplies with
  | ended other => cases other.symm.trans gives
  | failed other => cases other.symm.trans gives
  | pending other => cases other.symm.trans gives
  | given other goesOn =>
      cases other.symm.trans gives
      exact ⟨_, rfl, goesOn⟩

end Stream.Supplies

/-! ## A stream for every supply -/

namespace Supply

/-- How many buffers and failures are left. -/
def size : Supply → Nat
  | .ended => 0
  | .failed _ => 1
  | .pending later => later.size
  | .given _ later => later.size + 1

/-- Take what comes first. -/
def pull : (supply : Supply) → Pull size supply
  | .ended => .ended .ended
  | .failed failure => .item (.error failure) .ended Nat.zero_lt_one
  | .pending later => .pending later
  | .given buffer later =>
    .item (.ok buffer) later (Nat.lt_succ_self later.size)

/-- The stream that gives a supply, whatever happens around it. -/
def stream : Stream Unit Supply where
  size
  pull _ supply := ((), supply.pull)

theorem supplies_stream (supply : Supply) :
    stream.Supplies () supply supply := by
  induction supply with
  | ended => exact .ended rfl
  | failed failure => exact .failed rfl
  | pending later ih => exact .pending rfl ih
  | given buffer later ih => exact .given rfl ih

/-- Seven bytes in buffers that are smaller and larger than three. -/
def mixed : Supply :=
  .pending (.given [] (.given [1, 2] (.given [3, 4, 5, 6]
    (.pending (.given [7] .ended)))))

end Supply

end Multipart
