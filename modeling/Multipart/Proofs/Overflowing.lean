import Multipart.Proofs.Tiling

/-!
# Ranges beyond a word

Where a part begins is always a 64-bit word, since no part begins after the
end of the content.  Where it would stop if the content went on need not be
one: parts that are all counted in full may come to more bytes than a word
can tell.  The last part then has no range, although there is content left
for it: to tell the range breaks off.  The main statement,
`overflows_exactly`, says of which parts of which plans this is so.  It is so
of no plan that an upload is started with, since the parts of an uploader are
small; the parts of a checkpoint may have any size.
-/

namespace Multipart.Plan

/-! ## Where parts begin and stop -/

/-- Where a part begins. -/
def startAt (plan : Plan) (number : PartNumber) : Nat :=
  (number.toNat - 1) * plan.partSize.toNat

/-- Where a part stops if the content goes on after it. -/
def stopAt (plan : Plan) (number : PartNumber) : Nat :=
  plan.startAt number + plan.partSize.toNat

/-- A part stops where all parts up to it come to when they are full. -/
theorem stopAt_eq (plan : Plan) {number : PartNumber}
    (positive : 1 ≤ number.toNat) :
    plan.stopAt number = number.toNat * plan.partSize.toNat := by
  rw [stopAt, startAt, ← Nat.succ_mul, Nat.succ_eq_add_one,
    Nat.sub_add_cancel positive]

variable {length size : UInt64} {number : PartNumber}

/-- All parts that are followed by another stop within the content. -/
theorem stopAt_le
    (within : number.toNat <
      partsNeeded length.toNat (ofLength length size).partSize.toNat)
    (positive : 1 ≤ number.toNat) :
    (ofLength length size).stopAt number ≤ length.toNat := by
  rw [stopAt_eq _ positive]
  refine Nat.le_trans (Nat.mul_le_mul_right _ ?_)
    (partsNeeded_spec (partSize_pos length size) length.toNat).2
  omega

/-- Only the last part of a plan stops beyond a word. -/
theorem eq_partCount_of_stopAt
    (contained : (ofLength length size).contains number = true)
    (beyond : UInt64.size ≤ (ofLength length size).stopAt number) :
    number.toNat = (ofLength length size).partCount.toNat := by
  obtain ⟨positive, within⟩ := contains_iff.mp contained
  have counted := partCount_le length size
  have bound : length.toNat < UInt64.size := length.toNat_lt
  by_contra other
  have early : number.toNat <
      partsNeeded length.toNat (ofLength length size).partSize.toNat := by
    omega
  have stop := stopAt_le early positive
  omega

/-- A part that stops beyond a word begins before the content ends. -/
theorem startAt_lt_of_stopAt
    (contained : (ofLength length size).contains number = true)
    (beyond : UInt64.size ≤ (ofLength length size).stopAt number) :
    (ofLength length size).startAt number < length.toNat := by
  have counted := partCount_le length size
  have within := (contains_iff.mp contained).2
  have small : (ofLength length size).partSize.toNat < UInt64.size :=
    (ofLength length size).partSize.toNat_lt
  have start : (ofLength length size).startAt number ≤ length.toNat :=
    start_le contained
  have some : 0 < length.toNat := by
    rw [stopAt] at beyond
    omega
  refine Nat.lt_of_le_of_lt (Nat.mul_le_mul_right _ ?_)
    (pred_partsNeeded_mul_lt (partSize_pos length size) some)
  omega

/-- Where a part begins is told, and where it stops if a word can tell. -/
theorem range?_cases
    (contained : (ofLength length size).contains number = true) :
    (UInt64.size ≤ (ofLength length size).stopAt number ∧
        (ofLength length size).range? number = .error .addition) ∨
      ∃ range, (ofLength length size).range? number = .ok (some range) ∧
        (ofLength length size).stopAt number < UInt64.size ∧
        range.start.toNat =
          min ((ofLength length size).startAt number) length.toNat ∧
        range.stop.toNat =
          min ((ofLength length size).stopAt number) length.toNat := by
  obtain ⟨start, begins, first⟩ := exists_start contained
  change _ = (ofLength length size).startAt number at first
  cases stops : Word.add start (ofLength length size).partSize.toNat with
  | error panic =>
      obtain ⟨rfl, beyond⟩ := Word.add_eq_error.mp stops
      rw [first] at beyond
      refine .inl ⟨beyond, ?_⟩
      rw [range?, if_pos contained, begins]
      change Except.bind (Word.add start _) _ = _
      rw [stops]
      rfl
  | ok stop =>
      have last := Word.add_eq_ok.mp stops
      rw [first] at last
      change _ = (ofLength length size).stopAt number at last
      refine .inr ⟨_, range?_of_bounds contained begins stops,
        last ▸ stop.toNat_lt, ?_, ?_⟩
      · dsimp only
        rw [toNat_min _ (min _ _), toNat_min, first, last, stopAt]
        change min _ (min _ length.toNat) = _
        omega
      · dsimp only
        rw [toNat_min, last]
        rfl

/-! ## Main statement -/

/--
A part begins where a word can tell.  It stops where none can if and only if
it is the last one and all the parts, each counted in full, come to more than
a word can tell; then telling its range breaks off although content is left
for it.  In every other case the range is told, and it is the exact one.
-/
theorem overflows_exactly
    (contained : (ofLength length size).contains number = true) :
    let plan := ofLength length size
    plan.startAt number < UInt64.size ∧
      (UInt64.size ≤ plan.stopAt number ↔
        number.toNat = plan.partCount.toNat ∧
          UInt64.size ≤ plan.partCount.toNat * plan.partSize.toNat) ∧
      (UInt64.size ≤ plan.stopAt number →
        plan.range? number = .error .addition ∧
          plan.startAt number < length.toNat) ∧
      (plan.stopAt number < UInt64.size →
        ∃ range, plan.range? number = .ok (some range) ∧
          range.start.toNat = min (plan.startAt number) length.toNat ∧
          range.stop.toNat = min (plan.stopAt number) length.toNat) := by
  intro plan
  have positive := (contains_iff.mp contained).1
  refine ⟨Nat.lt_of_le_of_lt (start_le contained) length.toNat_lt,
    ⟨fun beyond => ?_, ?_⟩, fun beyond => ?_, fun within => ?_⟩
  · have last := eq_partCount_of_stopAt contained beyond
    refine ⟨last, ?_⟩
    rwa [← last, ← stopAt_eq _ positive]
  · rintro ⟨last, beyond⟩
    rwa [stopAt_eq _ positive, last]
  · rcases range?_cases contained with ⟨_, breaks⟩ | ⟨_, _, within, _⟩
    · exact ⟨breaks, startAt_lt_of_stopAt contained beyond⟩
    · exact absurd within (Nat.not_lt.mpr beyond)
  · rcases range?_cases contained with
      ⟨beyond, _⟩ | ⟨range, found, _, bounds⟩
    · exact absurd within (Nat.not_lt.mpr beyond)
    · exact ⟨range, found, bounds⟩

/--
A checkpoint with parts of somewhat more than half of all words is accepted
for the longest content.  Telling the range of its second part breaks off.
-/
theorem overflows_unclamped :
    let plan := ofLength 18446744073709551615 9223372036854775809
    Uploader.resumePlan
          ⟨⟨"upload-1"⟩, 9223372036854775809, 2, 0⟩
          18446744073709551615 =
        .ok plan ∧
      plan.contains ⟨2⟩ = true ∧ UInt64.size ≤ plan.stopAt ⟨2⟩ ∧
      plan.startAt ⟨2⟩ < 18446744073709551615 ∧
      plan.range? ⟨2⟩ = .error .addition ∧
      plan.range? ⟨1⟩ = .ok (some ⟨0, 9223372036854775809⟩) := by
  have beyond : UInt64.size ≤
      (ofLength 18446744073709551615 9223372036854775809).stopAt ⟨2⟩ := by
    decide
  have breaks := (overflows_exactly (by decide)).2.2.1 beyond
  exact ⟨by decide, by decide, beyond, breaks.2, breaks.1, by decide⟩

/-- A part of a plan that an upload is started with stops within a word. -/
theorem stopAt_lt_of_startPlan {uploader : Uploader} {plan : Plan}
    (configured : uploader.IsConfigured)
    (accepted : uploader.startPlan length = .ok plan)
    (contained : plan.contains number = true) :
    plan.stopAt number < UInt64.size := by
  obtain ⟨rfl, exact⟩ := Uploader.isExact_of_startPlan configured accepted
  have start : (ofLength length uploader.partSize).startAt number ≤
      length.toNat :=
    start_le contained
  have bounded := exact.bounded
  rw [stopAt]
  omega

end Multipart.Plan
