import Mathlib.Algebra.Order.Floor.Div
import Multipart.Proofs.Uploader

/-!
# The parts tile the content

The ranges of a plan lie one after another from the beginning of the content
to its end, and every part but the last has the planned size.  So each
position of the content lies in one part, whose place is the quotient of the
position by that size.  The main statement, `tiled_exactly`, says this of
every length and size whose sum is a 64-bit word and that need no more parts
than a 32-bit word can count; a plan that an upload is started with is always
of such a length and size.
-/

namespace Multipart

/-! ## Ranges one after another -/

/-- Holds when a position lies in a range. -/
def ByteRange.Covers (range : ByteRange) (position : Nat) : Prop :=
  range.start.toNat ≤ position ∧ position < range.stop.toNat

/-- Holds when ranges lie one after another between two positions. -/
inductive Tiles : Nat → List ByteRange → Nat → Prop where
  | nil (position : Nat) : Tiles position [] position
  | cons {range : ByteRange} {ranges : List ByteRange} {stop : Nat}
      (ordered : range.start ≤ range.stop)
      (others : Tiles range.stop.toNat ranges stop) :
      Tiles range.start.toNat (range :: ranges) stop

/-- One more range may follow those that lie before it. -/
theorem Tiles.concat {start stop : Nat} {ranges : List ByteRange}
    {range : ByteRange} (tiles : Tiles start ranges stop)
    (follows : range.start.toNat = stop)
    (ordered : range.start ≤ range.stop) :
    Tiles start (ranges ++ [range]) range.stop.toNat := by
  induction tiles with
  | nil position =>
      subst follows
      exact .cons ordered (.nil _)
  | cons first _ ih => exact .cons first (ih follows)

namespace Plan

/-! ## How many parts there are -/

theorem toNat_partSize (length size : UInt64) :
    (ofLength length size).partSize.toNat = max 1 size.toNat := by
  rw [ofLength]
  dsimp only
  split
  · rename_i zero
    rw [zero]
    decide
  · rename_i nonzero
    have positive : 0 < size.toNat :=
      Nat.pos_of_ne_zero fun zero => nonzero (UInt64.toNat_inj.mp zero)
    exact (Nat.max_eq_right positive).symm

theorem partsNeeded_eq {size : Nat} (positive : 0 < size) (length : Nat) :
    partsNeeded length size = max 1 (length ⌈/⌉ size) := by
  rw [partsNeeded, Nat.ceilDiv_eq_add_pred_div,
    Nat.add_sub_assoc positive]

/-- The parts before the last do not reach the end of the content. -/
theorem pred_partsNeeded_mul_lt {size : Nat} (positive : 0 < size)
    {length : Nat} (some : 0 < length) :
    (partsNeeded length size - 1) * size < length := by
  have reached : ¬ length ⌈/⌉ size ≤ 0 := by
    rw [ceilDiv_le_iff_le_mul positive]
    omega
  have least : ¬ length ≤ size * (length ⌈/⌉ size - 1) := by
    rw [← ceilDiv_le_iff_le_mul positive]
    omega
  rw [partsNeeded_eq positive, Nat.max_eq_right (by omega), Nat.mul_comm]
  exact Nat.not_le.mp least

/-- An exact plan is one of a length and a size that are not too large. -/
theorem isExact_iff {length size : UInt64} :
    IsExact length size ↔
      length.toNat + max 1 size.toNat < UInt64.size ∧
        length.toNat ⌈/⌉ max 1 size.toNat < UInt32.size := by
  have positive := partSize_pos length size
  have one : 1 < UInt32.size := by decide
  constructor
  · rintro ⟨counted, bounded⟩
    rw [partsNeeded_eq positive, toNat_partSize] at counted
    rw [toNat_partSize] at bounded
    exact ⟨bounded, (Nat.max_lt.mp counted).2⟩
  · rintro ⟨bounded, counted⟩
    constructor
    · rw [partsNeeded_eq positive, toNat_partSize]
      exact Nat.max_lt.mpr ⟨one, counted⟩
    · rwa [toNat_partSize]

/-! ## Where the parts of an exact plan lie -/

variable {length size : UInt64}

/-- A number that has a range is one of the plan. -/
theorem contains_of_range? {plan : Plan} {number : PartNumber}
    {range : ByteRange} (found : plan.range? number = .ok (some range)) :
    plan.contains number = true := by
  by_contra foreign
  rw [range?, if_neg foreign] at found
  cases Except.ok.inj found

/-- An exact plan has a range for its own numbers and for no others. -/
theorem isSome_range? (exact : IsExact length size)
    (number : PartNumber) :
    ((ofLength length size).range? number).map Option.isSome =
      .ok ((ofLength length size).contains number) := by
  cases contained : (ofLength length size).contains number with
  | true =>
      obtain ⟨range, found, _⟩ := exists_range exact contained
      rw [found]
      rfl
  | false =>
      rw [range?, contained]
      rfl

/-- The first parts lie one after another from the beginning. -/
theorem tiles_first (exact : IsExact length size) {count : Nat}
    (within : count ≤ (ofLength length size).partCount.toNat) :
    ∃ ranges,
      (List.range count).map
          (fun index =>
            (ofLength length size).range? (PartNumber.ofNat (index + 1))) =
          ranges.map (fun range => .ok (some range)) ∧
        Tiles 0 ranges ((ofLength length size).offset count) := by
  induction count with
  | zero => exact ⟨[], rfl, .nil 0⟩
  | succ count ih =>
      obtain ⟨ranges, same, tiles⟩ := ih (Nat.le_of_succ_le within)
      obtain ⟨range, found, start, stop⟩ := range?_ofLength exact within
      refine ⟨ranges ++ [range], ?_, ?_⟩
      · rw [List.range_succ, List.map_append, same, List.map_append]
        simp [found]
      · have ends : range.stop.toNat =
            (ofLength length size).offset (count + 1) := by
          rw [stop, offset_ofLength exact within, Nat.succ_mul]
        rw [← ends]
        refine tiles.concat ?_ ?_
        · rw [start, offset_ofLength exact (Nat.le_of_succ_le within)]
        · rw [UInt64.le_iff_toNat_le, start, stop]
          omega

/-- The part with a number, by where it lies in the content. -/
theorem range?_of_number (exact : IsExact length size)
    {number : PartNumber} {range : ByteRange}
    (found : (ofLength length size).range? number = .ok (some range)) :
    1 ≤ number.toNat ∧
      number.toNat ≤ (ofLength length size).partCount.toNat ∧
      range.start.toNat =
        min ((number.toNat - 1) *
          (ofLength length size).partSize.toNat) length.toNat ∧
      range.stop.toNat =
        min ((number.toNat - 1) *
            (ofLength length size).partSize.toNat +
          (ofLength length size).partSize.toNat) length.toNat := by
  rcases contains_iff.mp (contains_of_range? found) with ⟨positive, within⟩
  obtain ⟨other, known, start, stop⟩ :=
    range?_ofLength exact (Nat.sub_one_lt_of_le positive within)
  rw [Nat.sub_add_cancel positive, PartNumber.ofNat_toNat, found] at known
  cases known
  exact ⟨positive, within, start, stop⟩

/-- The place of the part in which a position lies is a quotient. -/
theorem covers_iff (exact : IsExact length size) {number : PartNumber}
    {range : ByteRange}
    (found : (ofLength length size).range? number = .ok (some range))
    {position : Nat} (below : position < length.toNat) :
    range.Covers position ↔
      position / (ofLength length size).partSize.toNat =
        number.toNat - 1 := by
  obtain ⟨_, _, start, stop⟩ := range?_of_number exact found
  rw [ByteRange.Covers, start, stop,
    Nat.div_eq_iff (partSize_pos length size)]
  have positive := partSize_pos length size
  omega

/-- Each position of the content lies in one part and in no other. -/
theorem existsUnique_part (exact : IsExact length size) {position : Nat}
    (below : position < length.toNat) :
    ∃! number, ∃ range,
      (ofLength length size).range? number = .ok (some range) ∧
        range.Covers position := by
  have positive := partSize_pos length size
  have small := (ofLength length size).partCount_lt
  have reach : position / (ofLength length size).partSize.toNat <
      (ofLength length size).partCount.toNat := by
    rw [Nat.div_lt_iff_lt_mul positive, partCount_ofLength exact]
    exact Nat.lt_of_lt_of_le below
      (partsNeeded_spec positive length.toNat).1
  obtain ⟨range, found, _⟩ := range?_ofLength exact reach
  have place :
      (PartNumber.ofNat
        (position / (ofLength length size).partSize.toNat + 1)).toNat =
          position / (ofLength length size).partSize.toNat + 1 :=
    PartNumber.toNat_ofNat (by omega)
  refine ⟨_, ⟨range, found, ?_⟩, ?_⟩
  · rw [covers_iff exact found below, place, Nat.add_sub_cancel]
  · rintro number ⟨other, known, covers⟩
    have quotient := (covers_iff exact known below).mp covers
    have first := (range?_of_number exact known).1
    rw [quotient, Nat.sub_add_cancel first, PartNumber.ofNat_toNat]

/-- The bytes of a part, by the place that its number tells. -/
theorem length_of_range? (exact : IsExact length size)
    {number : PartNumber} {range : ByteRange}
    (found : (ofLength length size).range? number = .ok (some range)) :
    range.length =
      min (ofLength length size).partSize.toNat
        (length.toNat - (number.toNat - 1) *
          (ofLength length size).partSize.toNat) := by
  obtain ⟨positive, within, _⟩ := range?_of_number exact found
  have known :=
    lengthAt_ofLength exact (Nat.sub_one_lt_of_le positive within)
  rwa [lengthAt, Nat.sub_add_cancel positive, PartNumber.ofNat_toNat,
    found] at known

/-! ## Exact plans -/

/-- What a plan is like that cuts content of a length by a size. -/
structure Cuts (plan : Plan) (length size : Nat) : Prop where
  counted : plan.partCount.toNat = max 1 (length ⌈/⌉ size)
  /-- The numbers go from one to the part count, in order. -/
  listed :
    plan.numbers.map PartNumber.toNat =
      List.range' 1 plan.partCount.toNat
  contained :
    ∀ number, number ∈ plan.numbers ↔ plan.contains number = true
  /-- Each of these numbers has a range, and no other number has one. -/
  ranged :
    ∀ number, (plan.range? number).map Option.isSome =
      .ok (plan.contains number)
  /-- The parts lie one after another, and together they are the content. -/
  tiled :
    ∃ ranges,
      plan.numbers.map plan.range? =
          ranges.map (fun range => .ok (some range)) ∧
        Tiles 0 ranges length
  /-- Each position of the content is in exactly one part. -/
  once :
    ∀ position < length,
      ∃! number, ∃ range, plan.range? number = .ok (some range) ∧
        range.Covers position
  full :
    ∀ number range, plan.range? number = .ok (some range) →
      number.toNat < plan.partCount.toNat → range.length = size
  last :
    ∀ number range, plan.range? number = .ok (some range) →
      number.toNat = plan.partCount.toNat → 0 < length →
        1 ≤ range.length ∧ range.length ≤ size
  /-- Content without bytes is one part without bytes. -/
  bare :
    length = 0 → plan.numbers = [.first] ∧
      plan.range? .first = .ok (some ⟨0, 0⟩)

/-- An exact plan of no bytes has one part, which is empty. -/
theorem numbers_of_empty (exact : IsExact length size)
    (empty : length.toNat = 0) :
    (ofLength length size).numbers = [.first] ∧
      (ofLength length size).range? .first = .ok (some ⟨0, 0⟩) := by
  have one : (ofLength length size).partCount.toNat = 1 := by
    rw [partCount_ofLength exact, partsNeeded_eq (partSize_pos length size),
      empty, zero_ceilDiv]
    rfl
  have first : 0 < (ofLength length size).partCount.toNat := by omega
  obtain ⟨range, found, start, stop⟩ := range?_ofLength exact first
  rw [empty, Nat.min_zero] at start stop
  refine ⟨?_, ?_⟩
  · rw [numbers_eq, one]
    rfl
  · have same : range = ⟨0, 0⟩ := by
      rw [ByteRange.mk.injEq]
      exact ⟨UInt64.toNat_inj.mp start, UInt64.toNat_inj.mp stop⟩
    rw [← same]
    exact found

/-- A plan that is exact cuts its length by its size. -/
theorem IsExact.cuts (exact : IsExact length size) :
    (ofLength length size).Cuts length.toNat
      (ofLength length size).partSize.toNat := by
  have positive := partSize_pos length size
  have counted := partCount_ofLength exact
  have most := (partsNeeded_spec positive length.toNat).1
  have least := (partsNeeded_spec positive length.toNat).2
  rw [← counted] at most least
  constructor
  case counted => rw [counted, partsNeeded_eq positive]
  case listed => exact map_toNat_numbers _
  case contained => exact fun _ => mem_numbers
  case ranged => exact isSome_range? exact
  case tiled =>
    obtain ⟨ranges, same, tiles⟩ := tiles_first exact (Nat.le_refl _)
    refine ⟨ranges, ?_, ?_⟩
    · rw [numbers_eq, List.map_map]
      exact same
    · rw [← total_ofLength exact]
      exact tiles
  case once => exact fun _ below => existsUnique_part exact below
  case full =>
    intro number range found early
    have first := (range?_of_number exact found).1
    -- Even the last part but one stops before the last begins.
    have next :
        (number.toNat - 1 + 1) * (ofLength length size).partSize.toNat ≤
          ((ofLength length size).partCount.toNat - 1) *
            (ofLength length size).partSize.toNat :=
      Nat.mul_le_mul_right _ (by omega)
    rw [length_of_range? exact found]
    rw [Nat.succ_mul] at next
    omega
  case last =>
    intro number range found final some
    have before := pred_partsNeeded_mul_lt positive some
    rw [← counted] at before
    rw [length_of_range? exact found, final]
    omega
  case bare => exact numbers_of_empty exact

/--
A plan cuts content whose length and part size sum up to less than 64 bits
tell, and that needs no more parts than 32 bits can count, into parts that
tile it.  The size of its parts makes the same plan again.  Every plan that
an upload is started with is of such a length and size.
-/
theorem tiled_exactly :
    (∀ length size : UInt64,
      length.toNat + max 1 size.toNat < UInt64.size →
        length.toNat ⌈/⌉ max 1 size.toNat < UInt32.size →
          (ofLength length size).Cuts length.toNat (max 1 size.toNat) ∧
            ofLength length (ofLength length size).partSize =
              ofLength length size) ∧
      ∀ (uploader : Uploader) (length : UInt64) (plan : Plan),
        uploader.IsConfigured → uploader.startPlan length = .ok plan →
          plan = ofLength length uploader.partSize ∧
            length.toNat + max 1 uploader.partSize.toNat < UInt64.size ∧
            length.toNat ⌈/⌉ max 1 uploader.partSize.toNat <
              UInt32.size := by
  constructor
  · intro length size bounded counted
    have cuts := (isExact_iff.mpr ⟨bounded, counted⟩).cuts
    rw [toNat_partSize] at cuts
    exact ⟨cuts, ofLength_partSize length size⟩
  · intro uploader length plan configured accepted
    obtain ⟨same, exact⟩ :=
      Uploader.isExact_of_startPlan configured accepted
    exact ⟨same, isExact_iff.mp exact⟩

/-- Twenty bytes by eight are three parts, and one by default. -/
theorem tiled_twenty :
    20 + 8 < UInt64.size ∧ 20 ⌈/⌉ 8 < UInt32.size ∧
      (ofLength 20 8).Cuts 20 8 ∧ (ofLength 20 8).partCount = 3 ∧
      ({} : Uploader).startPlan 20 =
        .ok (ofLength 20 defaultPartSize) ∧
      20 + defaultPartSize.toNat < UInt64.size ∧
      20 ⌈/⌉ defaultPartSize.toNat < UInt32.size := by
  have accepted :
      ({} : Uploader).startPlan 20 = .ok (ofLength 20 defaultPartSize) := by
    decide
  refine ⟨by decide, by decide,
    (tiled_exactly.1 20 8 (by decide) (by decide)).1, by decide, accepted,
    ?_⟩
  exact (tiled_exactly.2 {} 20 _ Uploader.isConfigured_default accepted).2

end Plan

end Multipart
