import Multipart.Plan
import Multipart.Request

/-!
# Cutting a stream into parts

Content comes as a stream of buffers of any size.  The cutter asks for a
buffer only when the bytes it holds do not reach the end of the next part,
cuts the parts the plan asks for, and reports content that is longer or
shorter than the plan says.  It counts the bytes it was given in a 64-bit
word, and breaks off when they are more than that.
-/

namespace Multipart

/-! ## Streams -/

/--
What asking a stream for a buffer comes to.  A stream that gives a buffer or
a failure becomes smaller, so it can give only finitely many.
-/
inductive Pull {Content : Type} (size : Content → Nat)
    (content : Content) where
  /-- Nothing is there yet. -/
  | pending (rest : Content)
  /-- The stream gives a buffer, or fails. -/
  | item (buffer : Except Failure Bytes) (rest : Content)
      (smaller : size rest < size content)
  /-- The stream has ended. -/
  | ended (rest : Content)

/-- A stream whose surroundings have a state of their own. -/
structure Stream (World Content : Type) where
  size : Content → Nat
  pull : World → (content : Content) → World × Pull size content

/-! ## Sources -/

/-- What a source answers. -/
inductive Answer where
  | pending
  | buffer (bytes : Bytes)
  | failed (failure : Failure)
  | ended
deriving DecidableEq

/-- What content is a stream of, without a promise that it comes to an end. -/
structure Source (World Content : Type) where
  ask : World → Content → World × Content × Answer

namespace Pull

variable {Content : Type} {size : Content → Nat} {content : Content}

/-- What is left when a stream was asked. -/
def rest : Pull size content → Content
  | .pending rest => rest
  | .item _ rest _ => rest
  | .ended rest => rest

/-- What asking a stream has for an answer. -/
def answer : Pull size content → Answer
  | .pending _ => .pending
  | .item (.ok buffer) _ _ => .buffer buffer
  | .item (.error failure) _ _ => .failed failure
  | .ended _ => .ended

/-- A stream that gives a buffer becomes smaller. -/
theorem size_rest_lt {pull : Pull size content} {buffer : Bytes}
    (gives : pull.answer = .buffer buffer) : size pull.rest < size content := by
  cases pull with
  | pending => cases gives
  | item item rest smaller => exact smaller
  | ended => cases gives

end Pull

/-- A stream as a source. -/
def Stream.source {World Content : Type} (stream : Stream World Content) :
    Source World Content where
  ask world content :=
    let pulled := stream.pull world content
    (pulled.1, pulled.2.rest, pulled.2.answer)

/-! ## The cutter -/

/-- Content that is being cut. -/
structure Cutter (Content : Type) where
  plan : Plan
  content : Content
  /-- What is left of the last buffer. -/
  rest : Bytes := []
  /-- The beginning of a part that spans buffers. -/
  gathered : Bytes := []
  /-- How many parts were cut. -/
  emitted : Nat := 0
  /-- How many bytes the stream gave. -/
  received : UInt64 := 0
  finished : Bool := false
  emitted_le : emitted ≤ plan.partCount.toNat := by omega

namespace Cutter

variable {World Content : Type}

/-- Start to cut content according to a plan. -/
def ofPlan (plan : Plan) (content : Content) : Cutter Content where
  plan
  content
  emitted_le := Nat.zero_le _

/-- Holds when every part of the plan was cut. -/
def isComplete (cutter : Cutter Content) : Bool :=
  cutter.emitted = cutter.plan.partCount.toNat

/-- The length of the part that is cut next. -/
def nextLength (cutter : Cutter Content) : Except Panic Nat :=
  match cutter.plan.range? (PartNumber.ofNat (cutter.emitted + 1)) with
  | .ok (some range) => .ok range.length
  | .ok none => .ok 0
  | .error panic => .error panic

/-- The failure of content that has not the length it declared. -/
def wrongLength (cutter : Cutter Content) : Failure :=
  .contentLength cutter.plan.contentLength cutter.received

/-- What the cutter can do with the bytes it holds. -/
inductive Demand where
  /-- It has ended. -/
  | ended
  /-- It can cut a part, and holds the given bytes after that. -/
  | part (body rest : Bytes)
  /-- It holds bytes beyond the last part. -/
  | excess
  /-- It needs a buffer, and holds the given beginning of a part. -/
  | input (beginning : Bytes)
  /-- It cannot tell how long the next part is. -/
  | broken (panic : Panic)
deriving DecidableEq

/--
Look at what the cutter holds.  A part that lies within one buffer is cut
from it as it is; one that spans buffers is gathered first.
-/
def demand (cutter : Cutter Content) : Demand :=
  if cutter.finished then
    .ended
  else if cutter.isComplete then
    if cutter.rest.isEmpty then .input cutter.gathered else .excess
  else
    match cutter.nextLength with
    | .error panic => .broken panic
    | .ok want =>
      if cutter.gathered.isEmpty ∧ want ≤ cutter.rest.length then
        .part (cutter.rest.take want) (cutter.rest.drop want)
      else
        let missing := want - cutter.gathered.length
        let longer := cutter.gathered ++ cutter.rest.take missing
        if longer.length = want then
          .part longer (cutter.rest.drop missing)
        else
          .input longer

/-- The cutter after it cut a part. -/
def cut (cutter : Cutter Content) (rest : Bytes)
    (incomplete : cutter.emitted < cutter.plan.partCount.toNat) :
    Cutter Content :=
  { cutter with
    rest
    gathered := []
    emitted := cutter.emitted + 1
    emitted_le := incomplete }

/-- The cutter after its last word. -/
def finish (cutter : Cutter Content) : Cutter Content :=
  { cutter with finished := true }

/-- The cutter after a buffer was given and counted that it needed. -/
def fill (cutter : Cutter Content) (beginning buffer : Bytes)
    (content : Content) (received : UInt64) : Cutter Content :=
  { cutter with gathered := beginning, rest := buffer, content, received }

/-- The cutter after it was given no buffer, or lost the one it was given. -/
def empty (cutter : Cutter Content) (beginning : Bytes)
    (content : Content) : Cutter Content :=
  cutter.fill beginning [] content cutter.received

/-- What polling a cutter comes to. -/
inductive Outcome where
  | pending
  | part (body : Bytes)
  | failed (failure : Failure)
  | ended
  | broken (panic : Panic)
deriving DecidableEq

/-- How many parts an outcome stands for. -/
def Outcome.parts : Outcome → Nat
  | .part _ => 1
  | _ => 0

theorem lt_of_demand_eq_part
    {cutter : Cutter Content} {body rest : Bytes}
    (equality : cutter.demand = .part body rest) :
    cutter.emitted < cutter.plan.partCount.toNat := by
  have bound := cutter.emitted_le
  by_cases complete : cutter.emitted = cutter.plan.partCount.toNat
  · rw [demand] at equality
    split at equality
    · exact Demand.noConfusion equality
    · simp only [isComplete, complete, decide_true, if_true] at equality
      split at equality <;> exact Demand.noConfusion equality
  · omega

/-! ## Turns and polls -/

/--
What a cutter that needs a buffer makes of an answer.  Without an outcome it
has a buffer to go on with.  Bytes are counted before they are looked at, so
a buffer that makes the count too large is lost.
-/
def heed (cutter : Cutter Content) (beginning : Bytes)
    (content : Content) : Answer → Cutter Content × Option Outcome
  | .pending => (cutter.empty beginning content, some .pending)
  | .ended =>
    ((cutter.empty beginning content).finish,
      some (if cutter.isComplete then .ended
        else .failed cutter.wrongLength))
  | .failed failure =>
    ((cutter.empty beginning content).finish, some (.failed failure))
  | .buffer buffer =>
    match Word.add cutter.received buffer.length with
    | .error panic =>
      (cutter.empty beginning content, some (.broken panic))
    | .ok received =>
      let filled := cutter.fill beginning buffer content received
      if cutter.isComplete ∧ ¬ buffer.isEmpty then
        ({ filled.finish with rest := [] }, some (.failed filled.wrongLength))
      else
        (filled, none)

/-- Look at the bytes once, and ask for a buffer if one is needed. -/
def turn (source : Source World Content) (world : World)
    (cutter : Cutter Content) : World × Cutter Content × Option Outcome :=
  match held : cutter.demand with
  | .ended => (world, cutter, some .ended)
  | .part body rest =>
    (world, cutter.cut rest (lt_of_demand_eq_part held), some (.part body))
  | .excess => (world, cutter.finish, some (.failed cutter.wrongLength))
  | .broken panic => (world, cutter, some (.broken panic))
  | .input beginning =>
    let asked := source.ask world cutter.content
    (asked.1, cutter.heed beginning asked.2.1 asked.2.2)

/-- A cutter goes on only with a buffer that it was given. -/
theorem heed_eq_none {cutter later : Cutter Content} {beginning : Bytes}
    {content : Content} {answer : Answer}
    (heeded : cutter.heed beginning content answer = (later, none)) :
    ∃ buffer received, answer = .buffer buffer ∧
      later = cutter.fill beginning buffer content received := by
  unfold heed at heeded
  split at heeded
  · cases heeded
  · cases heeded
  · cases heeded
  · rename_i buffer
    split at heeded
    · cases heeded
    · rename_i received _
      dsimp only at heeded
      split at heeded
      · cases heeded
      · cases heeded
        exact ⟨buffer, received, rfl, rfl⟩

/-- A stream is smaller after a turn that comes to nothing. -/
theorem size_lt_of_turn {stream : Stream World Content}
    {world after : World} {cutter later : Cutter Content}
    (goesOn : cutter.turn stream.source world = (after, later, none)) :
    stream.size later.content < stream.size cutter.content := by
  rw [turn] at goesOn
  split at goesOn
  · cases goesOn
  · cases goesOn
  · cases goesOn
  · cases goesOn
  · obtain ⟨buffer, received, gives, rfl⟩ :=
      heed_eq_none (Prod.mk.inj goesOn).2
    exact Pull.size_rest_lt gives

/--
Poll for the next part.  The stream is asked until the bytes held reach the
end of the part, and after the last part until the stream has ended.
-/
def poll (stream : Stream World Content) (world : World)
    (cutter : Cutter Content) : World × Cutter Content × Outcome :=
  match _turned : cutter.turn stream.source world with
  | (world, cutter, some outcome) => (world, cutter, outcome)
  | (world, later, none) => poll stream world later
termination_by stream.size cutter.content
decreasing_by exact size_lt_of_turn _turned

/-! ## What a poll keeps -/

section

variable (source : Source World Content) (world : World)
  (cutter : Cutter Content)

/-- A turn changes the surroundings only by asking the source. -/
theorem turn_world {R : World → Prop} (still : R world)
    (asks : ∀ content, R (source.ask world content).1) :
    R (cutter.turn source world).1 := by
  rw [turn]
  split <;> first | exact still | exact asks _

/-- What is made of an answer has the plan and the parts from before. -/
theorem heed_cutter (beginning : Bytes) (content : Content)
    (answer : Answer) :
    let heeded := cutter.heed beginning content answer
    heeded.1.plan = cutter.plan ∧ heeded.1.emitted = cutter.emitted ∧
      ∀ outcome, heeded.2 = some outcome → outcome.parts = 0 := by
  unfold heed
  split
  · exact ⟨rfl, rfl, by rintro _ ⟨⟩; rfl⟩
  · refine ⟨rfl, rfl, ?_⟩
    rintro _ ⟨⟩
    split <;> rfl
  · exact ⟨rfl, rfl, by rintro _ ⟨⟩; rfl⟩
  · split
    · exact ⟨rfl, rfl, by rintro _ ⟨⟩; rfl⟩
    · dsimp only
      split
      · exact ⟨rfl, rfl, by rintro _ ⟨⟩; rfl⟩
      · exact ⟨rfl, rfl, by rintro _ ⟨⟩⟩

/-- A turn keeps the plan and counts the part that is cut. -/
theorem turn_cutter :
    let turned := cutter.turn source world
    turned.2.1.plan = cutter.plan ∧
      turned.2.1.emitted =
        cutter.emitted + (turned.2.2.map Outcome.parts).getD 0 := by
  rw [turn]
  split
  · exact ⟨rfl, rfl⟩
  · exact ⟨rfl, rfl⟩
  · exact ⟨rfl, rfl⟩
  · exact ⟨rfl, rfl⟩
  · rename_i beginning _
    obtain ⟨plan, emitted, none⟩ :=
      heed_cutter cutter beginning (source.ask world cutter.content).2.1
        (source.ask world cutter.content).2.2
    refine ⟨plan, emitted.trans ?_⟩
    dsimp only
    cases outcome : (cutter.heed beginning
        (source.ask world cutter.content).2.1
        (source.ask world cutter.content).2.2).2 with
    | none => rfl
    | some outcome' => simp [none outcome' outcome]

end

/-- Polling a cutter changes its surroundings only by asking the stream. -/
theorem poll_world {stream : Stream World Content}
    {R : World → World → Prop}
    (reflexive : ∀ world, R world world)
    (transitive :
      ∀ {first second third}, R first second →
        R second third → R first third)
    (pulls : ∀ world content, R world (stream.pull world content).1)
    (world : World) (cutter : Cutter Content) :
    R world (cutter.poll stream world).1 := by
  fun_induction poll stream world cutter with
  | case1 world cutter after later outcome turned =>
      have kept := turn_world (R := R world) stream.source world cutter
        (reflexive world) (pulls world)
      rwa [turned] at kept
  | case2 world cutter after later turned polled =>
      have kept := turn_world (R := R world) stream.source world cutter
        (reflexive world) (pulls world)
      rw [turned] at kept
      exact transitive kept polled

/-- A cutter keeps its plan and counts the parts it cuts. -/
theorem poll_cutter (stream : Stream World Content) (world : World)
    (cutter : Cutter Content) :
    (cutter.poll stream world).2.1.plan = cutter.plan ∧
      (cutter.poll stream world).2.1.emitted =
        cutter.emitted + (cutter.poll stream world).2.2.parts := by
  fun_induction poll stream world cutter with
  | case1 world cutter after later outcome turned =>
      have kept := turn_cutter stream.source world cutter
      rwa [turned] at kept
  | case2 world cutter after later turned polled =>
      have kept := turn_cutter stream.source world cutter
      rw [turned] at kept
      exact ⟨polled.1.trans kept.1, polled.2.trans (kept.2 ▸ rfl)⟩

end Cutter

end Multipart
