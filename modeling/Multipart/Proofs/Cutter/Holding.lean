import Multipart.Proofs.Cutter.Looking
import Multipart.Proofs.Plan

/-!
# What a cutter holds of what it was given

At any time the bytes that a stream has given are those of the parts that
were cut and those that the cutter still holds, in this order.  So how far
the cutter has come can be told from the number of bytes alone: it needs a
buffer only while they do not reach the end of the next part, or once they
reach the end of the last part exactly.
-/

namespace Multipart

namespace Cutter

variable {World Content : Type} {cutter : Cutter Content}

/-! ## What a cutter holds -/

/-- The bytes a cutter holds. -/
def held (cutter : Cutter Content) : Bytes :=
  cutter.gathered ++ cutter.rest

/-- How many bytes the part that is cut next has. -/
def want (cutter : Cutter Content) : Nat :=
  cutter.plan.lengthAt cutter.emitted

/-- Holds when no more is gathered than the next part needs. -/
def IsTidy (cutter : Cutter Content) : Prop :=
  cutter.gathered.length ≤ cutter.want

/-- What is told of the next part's length is that length. -/
theorem want_of_nextLength {length : Nat}
    (told : cutter.nextLength = .ok length) : cutter.want = length := by
  rw [nextLength] at told
  rw [want, Plan.lengthAt]
  split at told
  · rename_i found
    rw [found]
    exact Except.ok.inj told
  · rename_i found
    rw [found]
    exact Except.ok.inj told
  · cases told

/-- Of an exact plan, the length of every part can be told. -/
theorem demand_ne_broken {length size : UInt64}
    (exact : Plan.IsExact length size)
    (planned : cutter.plan = Plan.ofLength length size) (panic : Panic) :
    cutter.demand ≠ .broken panic := by
  intro jammed
  cases complete : cutter.isComplete with
  | true =>
      rw [demand, complete] at jammed
      grind
  | false =>
      have differ : cutter.emitted ≠ cutter.plan.partCount.toNat :=
        of_decide_eq_false complete
      have bound := cutter.emitted_le
      rw [planned] at differ bound
      obtain ⟨range, found, _⟩ :=
        Plan.stop_of_range? exact (Nat.lt_of_le_of_ne bound differ)
      have told : cutter.nextLength = .ok range.length := by
        rw [nextLength, planned, found]
      rw [demand, told] at jammed
      grind

theorem want_of_isComplete (complete : cutter.isComplete = true) :
    cutter.want = 0 := by
  rw [want, of_decide_eq_true complete]
  exact cutter.plan.lengthAt_partCount

/-- A cutter that needs a buffer holds less than its next part. -/
theorem held_of_demand_eq_input {beginning : Bytes}
    (tidy : cutter.IsTidy) (needs : cutter.demand = .input beginning) :
    cutter.held = beginning ∧ beginning.length ≤ cutter.want := by
  rw [IsTidy] at tidy
  rw [demand] at needs
  split at needs
  · cases needs
  · split at needs
    · split at needs
      · rename_i empty
        obtain rfl := Demand.input.inj needs
        rw [List.isEmpty_iff] at empty
        exact ⟨by simp [held, empty], tidy⟩
      · cases needs
    · split at needs
      · cases needs
      · rename_i length told
        rw [want_of_nextLength told] at tidy ⊢
        dsimp only at needs
        split at needs
        · cases needs
        · split at needs
          · cases needs
          · rename_i short
            obtain rfl := Demand.input.inj needs
            have within :
                cutter.rest.length ≤ length - cutter.gathered.length := by
              rw [List.length_append, List.length_take] at short
              omega
            rw [List.take_of_length_le within, List.length_append]
            exact ⟨rfl, by omega⟩

/-- A part that is cut is the beginning of what the cutter holds. -/
theorem held_of_demand_eq_part {body rest : Bytes}
    (needs : cutter.demand = .part body rest) :
    cutter.held = body ++ rest ∧ body.length = cutter.want := by
  rw [demand] at needs
  split at needs
  · cases needs
  · split at needs
    · split at needs <;> cases needs
    · split at needs
      · cases needs
      · rename_i length told
        rw [want_of_nextLength told]
        dsimp only at needs
        split at needs
        · rename_i whole
          rcases Demand.part.inj needs with ⟨rfl, rfl⟩
          rw [List.isEmpty_iff] at whole
          rw [held, whole.1, List.nil_append, List.take_append_drop,
            List.length_take]
          exact ⟨rfl, Nat.min_eq_left whole.2⟩
        · split at needs
          · rename_i full
            rcases Demand.part.inj needs with ⟨rfl, rfl⟩
            rw [held, List.append_assoc, List.take_append_drop]
            exact ⟨rfl, full⟩
          · cases needs

/-- A cutter that has cut every part holds nothing when it goes on. -/
theorem held_of_isComplete (tidy : cutter.IsTidy)
    (complete : cutter.isComplete = true) {beginning : Bytes}
    (needs : cutter.demand = .input beginning) : beginning = [] := by
  have holds := (held_of_demand_eq_input tidy needs).2
  rw [want_of_isComplete complete] at holds
  exact List.eq_nil_of_length_eq_zero (by omega)

/-- Before its last part a cutter needs a buffer only for more bytes. -/
theorem length_lt_of_demand_eq_input {beginning : Bytes}
    (tidy : cutter.IsTidy) (incomplete : cutter.isComplete = false)
    (needs : cutter.demand = .input beginning) :
    beginning.length < cutter.want := by
  refine Nat.lt_of_le_of_ne (held_of_demand_eq_input tidy needs).2 ?_
  intro full
  cases told : cutter.nextLength with
  | error panic =>
      rw [demand, told] at needs
      grind
  | ok length =>
      have same := want_of_nextLength told
      rw [demand, told] at needs
      grind

/-- Bytes beyond the last part are held by a cutter that has cut it. -/
theorem held_of_demand_eq_excess (holds : cutter.demand = .excess) :
    cutter.isComplete = true ∧ cutter.held ≠ [] := by
  rw [demand] at holds
  split at holds
  · cases holds
  · split at holds
    · rename_i complete
      refine ⟨complete, fun empty => ?_⟩
      rw [List.append_eq_nil_iff.mp empty |>.2] at holds
      cases holds
    · grind

/-! ## How many bytes a cutter was given -/

/-- How a cutter depends on how many bytes it was given. -/
structure Gauge (cutter : Cutter Content) (given : Nat) : Prop where
  tidy : cutter.IsTidy
  measured :
    given = cutter.plan.offset cutter.emitted + cutter.held.length
  received : cutter.received.toNat = given

namespace Gauge

variable {given : Nat} {beginning : Bytes}

/-- A buffer may be drawn that the cutter needs. -/
theorem fill (gauge : cutter.Gauge given)
    (needs : cutter.demand = .input beginning) {buffer : Bytes}
    (content : Content) {received : UInt64}
    (counted : Word.add cutter.received buffer.length = .ok received) :
    (cutter.fill beginning buffer content received).Gauge
      (given + buffer.length) := by
  rcases held_of_demand_eq_input gauge.tidy needs with ⟨held, short⟩
  refine ⟨short, ?_, ?_⟩
  · rw [gauge.measured, held]
    change _ = _ + (beginning ++ buffer).length
    rw [List.length_append]
    exact Nat.add_assoc _ _ _
  · rw [← gauge.received]
    exact Word.add_eq_ok.mp counted

/-- A cutter that is given no buffer holds what it held. -/
theorem empty (gauge : cutter.Gauge given)
    (needs : cutter.demand = .input beginning) (content : Content) :
    (cutter.empty beginning content).Gauge given :=
  gauge.fill needs content (Word.add_zero _)

/-- The part that is cut comes out of what the cutter held. -/
theorem cut (gauge : cutter.Gauge given) {body rest : Bytes}
    (full : cutter.demand = .part body rest) :
    (cutter.cut rest (lt_of_demand_eq_part full)).Gauge given := by
  rcases held_of_demand_eq_part full with ⟨held, length⟩
  refine ⟨Nat.zero_le _, ?_, gauge.received⟩
  rw [gauge.measured, held, List.length_append, length]
  exact (Nat.add_assoc _ _ _).symm

/-- A cutter does not look at what its source is going to give. -/
theorem feed (gauge : cutter.Gauge given) (content : Content) :
    { cutter with content }.Gauge given :=
  ⟨gauge.tidy, gauge.measured, gauge.received⟩

/-- The part that is cut next reaches no further than what was given. -/
theorem offset_le (gauge : cutter.Gauge given) {body rest : Bytes}
    (full : cutter.demand = .part body rest) :
    cutter.plan.offset (cutter.emitted + 1) ≤ given := by
  rcases held_of_demand_eq_part full with ⟨held, length⟩
  rw [gauge.measured, held, List.length_append, length, Plan.offset, want]
  omega

/-- Before its last part a cutter is in need until the next part's end. -/
theorem lt_offset (gauge : cutter.Gauge given)
    (needs : cutter.demand = .input beginning)
    (incomplete : cutter.isComplete = false) :
    given < cutter.plan.offset (cutter.emitted + 1) := by
  have short :=
    length_lt_of_demand_eq_input gauge.tidy incomplete needs
  rw [want] at short
  rw [gauge.measured, (held_of_demand_eq_input gauge.tidy needs).1,
    Plan.offset]
  omega

/-- Before its last part a cutter in need was not given all its plan. -/
theorem lt_total (gauge : cutter.Gauge given)
    (needs : cutter.demand = .input beginning)
    (incomplete : cutter.isComplete = false) :
    given < cutter.plan.total := by
  have differ : cutter.emitted ≠ cutter.plan.partCount.toNat :=
    of_decide_eq_false incomplete
  have next : cutter.emitted + 1 ≤ cutter.plan.partCount.toNat := by
    have bound := cutter.emitted_le
    omega
  exact (gauge.lt_offset needs incomplete).trans_le
    (cutter.plan.offset_le_total next)

/-- After its last part a cutter in need was given all its plan. -/
theorem eq_total (gauge : cutter.Gauge given)
    (needs : cutter.demand = .input beginning)
    (complete : cutter.isComplete = true) :
    given = cutter.plan.total := by
  have held := (held_of_demand_eq_input gauge.tidy needs).1
  rw [gauge.measured, held, held_of_isComplete gauge.tidy complete needs,
    of_decide_eq_true complete]
  rfl

/-- A cutter in need was given no more than all its plan. -/
theorem le_total (gauge : cutter.Gauge given)
    (needs : cutter.demand = .input beginning) :
    given ≤ cutter.plan.total := by
  cases complete : cutter.isComplete with
  | true => exact (gauge.eq_total needs complete).le
  | false => exact (gauge.lt_total needs complete).le

/-- A cutter with bytes beyond the last part was given too many. -/
theorem total_lt (gauge : cutter.Gauge given)
    (exceeds : cutter.demand = .excess) :
    cutter.isComplete = true ∧ cutter.plan.total < given := by
  rcases held_of_demand_eq_excess exceeds with ⟨complete, some⟩
  refine ⟨complete, ?_⟩
  have positive := List.length_pos_iff.mpr some
  rw [gauge.measured, of_decide_eq_true complete, Plan.total]
  omega

end Gauge

/-! ## Which bytes a cutter was given -/

/-- How a cutter depends on the parts it has cut and the bytes it was given. -/
structure Holds (cutter : Cutter Content) (parts : List Bytes)
    (given : Bytes) : Prop extends Gauge cutter given.length where
  kept : given = parts.flatten ++ cutter.held
  counted : parts.length = cutter.emitted

/-- A cutter that has not been polled was given nothing. -/
theorem holds_ofPlan (plan : Plan) (content : Content) :
    (ofPlan plan content).Holds [] [] :=
  ⟨⟨Nat.zero_le _, rfl, rfl⟩, rfl, rfl⟩

namespace Holds

variable {parts : List Bytes} {given beginning : Bytes}

/-- The parts that were cut end where the next one begins. -/
theorem length_flatten (holds : cutter.Holds parts given) :
    parts.flatten.length = cutter.plan.offset cutter.emitted := by
  have measured := holds.measured
  have kept := congrArg List.length holds.kept
  rw [List.length_append] at kept
  omega

/-- A buffer may be drawn that the cutter needs. -/
theorem fill (holds : cutter.Holds parts given)
    (needs : cutter.demand = .input beginning) {buffer : Bytes}
    (content : Content) {received : UInt64}
    (counted : Word.add cutter.received buffer.length = .ok received) :
    (cutter.fill beginning buffer content received).Holds parts
      (given ++ buffer) := by
  have held := (held_of_demand_eq_input holds.tidy needs).1
  refine ⟨?_, ?_, holds.counted⟩
  · rw [List.length_append]
    exact holds.toGauge.fill needs content counted
  · rw [holds.kept, held, List.append_assoc]
    rfl

/-- A cutter that is given no buffer holds what it held. -/
theorem empty (holds : cutter.Holds parts given)
    (needs : cutter.demand = .input beginning) (content : Content) :
    (cutter.empty beginning content).Holds parts given := by
  have filled : (cutter.fill beginning [] content cutter.received).Holds
      parts (given ++ []) :=
    holds.fill needs content (Word.add_zero _)
  rwa [List.append_nil] at filled

/-- A part that is cut is taken from the beginning of what is held. -/
theorem cut (holds : cutter.Holds parts given) {body rest : Bytes}
    (full : cutter.demand = .part body rest) :
    (cutter.cut rest (lt_of_demand_eq_part full)).Holds
      (parts ++ [body]) given := by
  refine ⟨holds.toGauge.cut full, ?_, ?_⟩
  · rw [holds.kept, (held_of_demand_eq_part full).1]
    simp [Cutter.cut, Cutter.held]
  · rw [List.length_append, holds.counted]
    rfl

/-- The part that is cut next is what the plan says of the content. -/
theorem body_eq (holds : cutter.Holds parts given) {body rest : Bytes}
    (full : cutter.demand = .part body rest) (more : Bytes) :
    body = cutter.plan.slice (given ++ more) cutter.emitted := by
  rcases held_of_demand_eq_part full with ⟨held, length⟩
  rw [holds.kept, held]
  simp only [List.append_assoc]
  exact (Plan.slice_of_append holds.length_flatten length).symm

end Holds

end Cutter

end Multipart
