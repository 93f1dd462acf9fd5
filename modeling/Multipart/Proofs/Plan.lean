import Mathlib.Data.List.Nodup
import Mathlib.Order.Monotone.Basic
import Multipart.Plan
import Multipart.Request

/-!
# The parts of a plan

Part numbers are 32-bit words, and a plan has no more parts than such a word
can count.  So the numbers of its parts are its positions counted from one,
and the parts of an exact plan lie one after another in the content.
-/

namespace Multipart

namespace PartNumber

theorem toNat_ofNat {value : Nat} (fits : value < UInt32.size) :
    (ofNat value).toNat = value := by
  simp only [toNat, ofNat]
  exact UInt32.toNat_ofNat_of_lt' fits

theorem next_ofNat (value : Nat) :
    (ofNat value).next = ofNat (value + 1) := by
  simp [next, ofNat]

/-- The numbers after the first parts, as many as a word can count. -/
theorem ofNat_succ_inj {left right : Nat} (small : left < UInt32.size)
    (other : right < UInt32.size) :
    ofNat (left + 1) = ofNat (right + 1) ↔ left = right := by
  refine ⟨fun same => ?_, fun same => by rw [same]⟩
  have values := congrArg PartNumber.toNat same
  simp only [toNat, ofNat, UInt32.toNat_ofNat'] at values
  simp only [UInt32.size] at small other
  omega

end PartNumber

namespace Plan

theorem partCount_lt (plan : Plan) : plan.partCount.toNat < UInt32.size :=
  UInt32.toNat_lt _

theorem contains_iff {plan : Plan} {number : PartNumber} :
    plan.contains number = true ↔
      1 ≤ number.toNat ∧ number.toNat ≤ plan.partCount.toNat := by
  simp [contains, PartNumber.toNat, UInt32.le_iff_toNat_le]

/-- The numbers of a plan are those from one to its part count. -/
theorem numbers_eq (plan : Plan) :
    plan.numbers =
      (List.range plan.partCount.toNat).map
        fun index => PartNumber.ofNat (index + 1) := by
  simp [numbers, firstNumbers]

/-- The numbers of a plan are counted from one. -/
theorem map_toNat_numbers (plan : Plan) :
    plan.numbers.map PartNumber.toNat =
      List.range' 1 plan.partCount.toNat := by
  rw [numbers_eq, List.map_map, List.range'_eq_map_range]
  refine List.map_congr_left fun index within => ?_
  have small := plan.partCount_lt
  rw [List.mem_range] at within
  rw [Function.comp_apply, PartNumber.toNat_ofNat (by omega), Nat.add_comm]

theorem mem_numbers {plan : Plan} {number : PartNumber} :
    number ∈ plan.numbers ↔ plan.contains number = true := by
  have bound := plan.partCount_lt
  rw [numbers_eq, contains_iff, List.mem_map]
  constructor
  · rintro ⟨index, below, rfl⟩
    rw [List.mem_range] at below
    rw [PartNumber.toNat_ofNat (by omega)]
    omega
  · rintro ⟨positive, within⟩
    refine ⟨number.toNat - 1, List.mem_range.mpr (by omega), ?_⟩
    rw [Nat.sub_add_cancel positive, PartNumber.ofNat_toNat]

@[simp]
theorem length_numbers (plan : Plan) :
    plan.numbers.length = plan.partCount.toNat := by
  simp [numbers_eq]

/-- A plan has no number twice. -/
theorem nodup_numbers (plan : Plan) : plan.numbers.Nodup := by
  have bound := plan.partCount_lt
  rw [numbers_eq]
  refine List.nodup_range.map_on fun left below right within same => ?_
  rw [List.mem_range] at below within
  exact (PartNumber.ofNat_succ_inj (by omega) (by omega)).mp same

/-! ## Where the parts lie -/

/-- The length of the part at a position counted from zero. -/
def lengthAt (plan : Plan) (index : Nat) : Nat :=
  match plan.range? (PartNumber.ofNat (index + 1)) with
  | .ok (some range) => range.length
  | _ => 0

/-- How many bytes the parts before a position have. -/
def offset (plan : Plan) : Nat → Nat
  | 0 => 0
  | index + 1 => plan.offset index + plan.lengthAt index

/-- How many bytes all the parts have. -/
def total (plan : Plan) : Nat :=
  plan.offset plan.partCount.toNat

/-- The first parts have no more bytes than all of them. -/
theorem offset_le_total (plan : Plan) {index : Nat}
    (within : index ≤ plan.partCount.toNat) :
    plan.offset index ≤ plan.total :=
  monotone_nat_of_le_succ (fun _ => Nat.le_add_right _ _) within

/-- After its last part a plan has none. -/
theorem lengthAt_partCount (plan : Plan) :
    plan.lengthAt plan.partCount.toNat = 0 := by
  have beyond :
      plan.contains (PartNumber.ofNat (plan.partCount.toNat + 1)) =
        false := by
    rw [Bool.eq_false_iff, Ne, contains_iff]
    intro within
    have bound := plan.partCount_lt
    by_cases last : plan.partCount.toNat + 1 < UInt32.size
    · rw [PartNumber.toNat_ofNat last] at within
      omega
    · have wraps : plan.partCount.toNat + 1 = UInt32.size := by omega
      rw [wraps] at within
      exact absurd within.1 (by decide)
  rw [lengthAt, range?, beyond]
  rfl

/-! ## What the parts hold -/

/-- The bytes of content that go in the part at a position. -/
def slice (plan : Plan) (content : Bytes) (index : Nat) : Bytes :=
  (content.drop (plan.offset index)).take (plan.lengthAt index)

/-- The first parts one after another are the beginning of the content. -/
theorem flatten_slices (plan : Plan) (content : Bytes) (count : Nat) :
    ((List.range count).map (plan.slice content)).flatten =
      content.take (plan.offset count) := by
  induction count with
  | zero => rfl
  | succ count ih =>
      rw [List.range_succ, List.map_append, List.flatten_append, ih,
        offset, List.take_add]
      simp [slice]

/-- The parts of a plan, each at the place its number tells. -/
theorem map_numbers {α : Type} (plan : Plan) (part : Nat → α) :
    plan.numbers.map (fun number => part (number.toNat - 1)) =
      (List.range plan.partCount.toNat).map part := by
  have bound := plan.partCount_lt
  rw [numbers_eq, List.map_map]
  refine List.map_congr_left fun index member => ?_
  rw [List.mem_range] at member
  change part ((PartNumber.ofNat (index + 1)).toNat - 1) = part index
  rw [PartNumber.toNat_ofNat (by omega), Nat.add_sub_cancel]

/-- What follows the earlier parts begins with the next one. -/
theorem slice_of_append {plan : Plan} {front body rest : Bytes}
    {index : Nat} (before : front.length = plan.offset index)
    (full : body.length = plan.lengthAt index) :
    plan.slice (front ++ (body ++ rest)) index = body := by
  rw [slice, List.drop_left' before, List.take_left' full]

/-- What is a part of every content that goes on so was there in full. -/
theorem full_of_slices {plan : Plan} {bytes body : Bytes} {index : Nat}
    (each : ∀ content, bytes <+: content →
      body = plan.slice content index) :
    body.length = plan.lengthAt index := by
  have long :=
    congrArg List.length (each (bytes ++ List.replicate
      (plan.offset index + plan.lengthAt index) 0)
      (List.prefix_append _ _))
  rw [slice, List.length_take, List.length_drop, List.length_append,
    List.length_replicate] at long
  omega

/-! ## Plans of a length -/

/-- The parts needed cover the length, and one fewer would not exceed it. -/
theorem partsNeeded_spec {size : Nat} (positive : 0 < size) (length : Nat) :
    length ≤ partsNeeded length size * size ∧
      (partsNeeded length size - 1) * size ≤ length := by
  have division := Nat.div_add_mod (length + (size - 1)) size
  have below := Nat.mod_lt (length + (size - 1)) positive
  rw [partsNeeded]
  generalize (length + (size - 1)) / size = count at division
  rw [Nat.mul_comm] at division
  rcases Nat.eq_zero_or_pos count with rfl | some
  · simp only [Nat.zero_mul, Nat.zero_add] at division
    simp only [Nat.max_zero, Nat.one_mul, Nat.sub_self, Nat.zero_mul]
    omega
  · rw [Nat.max_eq_right some, Nat.sub_mul]
    omega

theorem partSize_pos (length size : UInt64) :
    0 < (ofLength length size).partSize.toNat := by
  rw [ofLength]
  dsimp only
  split
  · decide
  · rename_i nonzero
    exact Nat.pos_of_ne_zero fun zero =>
      nonzero (UInt64.toNat_inj.mp zero)

/-- The size of a plan's parts makes the same plan again. -/
theorem ofLength_partSize (length size : UInt64) :
    ofLength length (ofLength length size).partSize =
      ofLength length size := by
  have nonzero : (ofLength length size).partSize ≠ 0 := by
    intro zero
    have positive := partSize_pos length size
    rw [zero] at positive
    exact absurd positive (Nat.lt_irrefl 0)
  rw [ofLength, if_neg nonzero]
  rfl

/-- A plan may have fewer parts than are needed, but never more. -/
theorem partCount_le (length size : UInt64) :
    (ofLength length size).partCount.toNat ≤
      partsNeeded length.toNat (ofLength length size).partSize.toNat := by
  change (UInt32.ofNat (min (partsNeeded length.toNat
    (ofLength length size).partSize.toNat) (UInt32.size - 1))).toNat ≤ _
  have least : min (partsNeeded length.toNat
      (ofLength length size).partSize.toNat) (UInt32.size - 1) <
        UInt32.size :=
    Nat.lt_of_le_of_lt (Nat.min_le_right _ _) (by decide)
  rw [UInt32.toNat_ofNat_of_lt' least]
  exact Nat.min_le_left _ _

/-- No part begins after the end of the content. -/
theorem start_le {length size : UInt64} {number : PartNumber}
    (contained : (ofLength length size).contains number = true) :
    (number.toNat - 1) * (ofLength length size).partSize.toNat ≤
      length.toNat := by
  have counted := partCount_le length size
  have within := (contains_iff.mp contained).2
  refine Nat.le_trans (Nat.mul_le_mul_right _ ?_)
    (partsNeeded_spec (partSize_pos length size) length.toNat).2
  omega

/-- So the product that says where a part begins is never too large. -/
theorem exists_start {length size : UInt64} {number : PartNumber}
    (contained : (ofLength length size).contains number = true) :
    ∃ start,
      Word.mul (number.value - 1).toUInt64
          (ofLength length size).partSize = .ok start ∧
        start.toNat =
          (number.toNat - 1) * (ofLength length size).partSize.toNat := by
  have positive := (contains_iff.mp contained).1
  have before : ((number.value - 1).toUInt64).toNat = number.toNat - 1 := by
    rw [UInt32.toNat_toUInt64, UInt32.toNat_sub_of_le]
    · rfl
    · rw [UInt32.le_iff_toNat_le]
      exact positive
  have start := start_le contained
  rw [← before] at start ⊢
  exact Word.exists_mul (Nat.lt_of_le_of_lt start length.toNat_lt)

/-- Holds when a plan has neither too many parts nor a range too far. -/
structure IsExact (length size : UInt64) : Prop where
  counted :
    partsNeeded length.toNat (ofLength length size).partSize.toNat <
      UInt32.size
  bounded :
    length.toNat + (ofLength length size).partSize.toNat < UInt64.size

variable {length size : UInt64}

theorem partCount_ofLength (exact : IsExact length size) :
    (ofLength length size).partCount.toNat =
      partsNeeded length.toNat (ofLength length size).partSize.toNat := by
  have counted := exact.counted
  change (UInt32.ofNat (min (partsNeeded length.toNat
    (ofLength length size).partSize.toNat) (UInt32.size - 1))).toNat = _
  have least :
      partsNeeded length.toNat (ofLength length size).partSize.toNat ≤
        UInt32.size - 1 :=
    Nat.le_pred_of_lt counted
  rw [Nat.min_eq_left least]
  exact UInt32.toNat_ofNat_of_lt' counted

theorem toNat_min (left right : UInt64) :
    (min left right).toNat = min left.toNat right.toNat := by
  rw [show min left right = if left ≤ right then left else right from rfl,
    Nat.min_def]
  simp only [UInt64.le_iff_toNat_le]
  split <;> rfl

/-- The range of a part whose bounds are words, if the content went on. -/
theorem range?_of_bounds {plan : Plan} {number : PartNumber}
    {start stop : UInt64} (contained : plan.contains number = true)
    (begins :
      Word.mul (number.value - 1).toUInt64 plan.partSize = .ok start)
    (stops : Word.add start plan.partSize.toNat = .ok stop) :
    plan.range? number =
      .ok (some
        ⟨min start (min stop plan.contentLength),
          min stop plan.contentLength⟩) := by
  rw [range?, if_pos contained, begins]
  change Except.bind (Word.add start plan.partSize.toNat) _ = _
  rw [stops]
  rfl

/-- A part goes from its position to the next, or to the content's end. -/
theorem range?_ofLength (exact : IsExact length size) {index : Nat}
    (within : index < (ofLength length size).partCount.toNat) :
    ∃ range,
      (ofLength length size).range? (PartNumber.ofNat (index + 1)) =
          .ok (some range) ∧
        range.start.toNat =
          min (index * (ofLength length size).partSize.toNat)
            length.toNat ∧
        range.stop.toNat =
          min (index * (ofLength length size).partSize.toNat +
            (ofLength length size).partSize.toNat) length.toNat := by
  have bounded := exact.bounded
  have small := (ofLength length size).partCount_lt
  have value : (PartNumber.ofNat (index + 1)).toNat = index + 1 :=
    PartNumber.toNat_ofNat (by omega)
  have contained :
      (ofLength length size).contains (PartNumber.ofNat (index + 1)) =
        true := by
    rw [contains_iff, value]
    omega
  have before := start_le contained
  obtain ⟨start, begins, first⟩ := exists_start contained
  rw [value, Nat.add_sub_cancel] at before first
  have fits : start.toNat + (ofLength length size).partSize.toNat <
      UInt64.size := by omega
  obtain ⟨stop, stops, last⟩ := Word.exists_add fits
  rw [first] at last
  refine ⟨_, range?_of_bounds contained begins stops, ?_, ?_⟩
  · dsimp only
    rw [toNat_min _ (min _ _), toNat_min, first, last]
    change min _ (min _ length.toNat) = _
    omega
  · dsimp only
    rw [toNat_min, last]
    rfl

/-- A part has the planned size, or what is left of the content. -/
theorem lengthAt_ofLength (exact : IsExact length size) {index : Nat}
    (within : index < (ofLength length size).partCount.toNat) :
    (ofLength length size).lengthAt index =
      min (ofLength length size).partSize.toNat
        (length.toNat - index * (ofLength length size).partSize.toNat) := by
  obtain ⟨range, found, start, stop⟩ := range?_ofLength exact within
  rw [lengthAt, found]
  dsimp only
  rw [ByteRange.length, UInt64.toNat_sub_of_le, start, stop]
  · omega
  · rw [UInt64.le_iff_toNat_le, start, stop]
    omega

/-- The parts before a position are full, but for the end of the content. -/
theorem offset_ofLength (exact : IsExact length size) {index : Nat}
    (within : index ≤ (ofLength length size).partCount.toNat) :
    (ofLength length size).offset index =
      min (index * (ofLength length size).partSize.toNat) length.toNat := by
  induction index with
  | zero => simp [offset]
  | succ index ih =>
      rw [offset, ih (by omega), lengthAt_ofLength exact within,
        Nat.succ_mul]
      omega

/-- The range of a part stops where the next part begins. -/
theorem stop_of_range? (exact : IsExact length size) {index : Nat}
    (within : index < (ofLength length size).partCount.toNat) :
    ∃ range,
      (ofLength length size).range? (PartNumber.ofNat (index + 1)) =
          .ok (some range) ∧
        range.stop.toNat = (ofLength length size).offset (index + 1) := by
  obtain ⟨range, found, _, stop⟩ := range?_ofLength exact within
  refine ⟨range, found, ?_⟩
  rw [stop, offset_ofLength exact within, Nat.succ_mul]

/-- The range of a part is the place at which its bytes lie. -/
theorem exists_range (exact : IsExact length size) {number : PartNumber}
    (contained : (ofLength length size).contains number = true) :
    ∃ range, (ofLength length size).range? number = .ok (some range) ∧
      range.start.toNat =
        (ofLength length size).offset (number.toNat - 1) ∧
      range.length = (ofLength length size).lengthAt (number.toNat - 1) := by
  rcases contains_iff.mp contained with ⟨positive, within⟩
  have below :
      number.toNat - 1 < (ofLength length size).partCount.toNat := by
    omega
  obtain ⟨range, found, start, _⟩ := range?_ofLength exact below
  rw [Nat.sub_add_cancel positive, PartNumber.ofNat_toNat] at found
  refine ⟨range, found, ?_, ?_⟩
  · rw [start, offset_ofLength exact below.le]
  · rw [lengthAt, Nat.sub_add_cancel positive, PartNumber.ofNat_toNat, found]

/-- The parts have as many bytes as the content. -/
theorem total_ofLength (exact : IsExact length size) :
    (ofLength length size).total = length.toNat := by
  have covers := (partsNeeded_spec (partSize_pos length size)
    length.toNat).1
  rw [total, offset_ofLength exact (Nat.le_refl _),
    partCount_ofLength exact]
  exact Nat.min_eq_right covers

end Plan

end Multipart
