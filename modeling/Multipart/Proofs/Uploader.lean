import Multipart.Proofs.Plan
import Multipart.Uploader

/-!
# The plans of an uploader

An uploader refuses a plan of too many parts, and its parts are never too
large.  So a plan that is accepted cuts the content exactly, and so does the
plan of an upload that is resumed, which is the same plan again.
-/

namespace Multipart.Uploader

/-- Holds of an uploader with some limit and some part size set. -/
def IsConfigured (uploader : Uploader) : Prop :=
  ∃ limit size, uploader = ({ limit } : Uploader).withPartSize size

/-- An uploader with which nothing was set is as if its part size were. -/
theorem isConfigured_default : ({} : Uploader).IsConfigured :=
  ⟨none, Plan.defaultPartSize, rfl⟩

theorem IsConfigured.partSize_le {uploader : Uploader}
    (configured : uploader.IsConfigured) :
    uploader.partSize ≤ Plan.maxPartSize := by
  rcases configured with ⟨limit, size, rfl⟩
  rw [withPartSize]
  rw [UInt64.le_iff_toNat_le, Plan.toNat_min]
  exact Nat.min_le_right _ _

theorem checkCount_eq_ok {plan other : Plan}
    (checked : checkCount plan = .ok other) :
    other = plan ∧ plan.partCount.toNat ≤ 10000 := by
  rw [checkCount] at checked
  split at checked
  · cases checked
  · rename_i few
    obtain rfl := Except.ok.inj checked
    rw [UInt32.not_lt, UInt32.le_iff_toNat_le] at few
    exact ⟨rfl, few⟩

/-- A plan of few parts that are not too large cuts its length exactly. -/
theorem isExact_of_partCount {length size : UInt64}
    (few : (Plan.ofLength length size).partCount.toNat ≤ 10000)
    (sized : size ≤ Plan.maxPartSize) : Plan.IsExact length size := by
  have large :
      (Plan.ofLength length size).partSize.toNat ≤
        Plan.maxPartSize.toNat := by
    rw [← UInt64.le_iff_toNat_le]
    rw [Plan.ofLength]
    dsimp only
    split
    · decide
    · exact sized
  have needed :
      Plan.partsNeeded length.toNat
        (Plan.ofLength length size).partSize.toNat ≤ 10000 := by
    have count : (Plan.ofLength length size).partCount =
        UInt32.ofNat (min (Plan.partsNeeded length.toNat
          (Plan.ofLength length size).partSize.toNat)
            (UInt32.size - 1)) :=
      rfl
    generalize Plan.partsNeeded length.toNat
      (Plan.ofLength length size).partSize.toNat = needed at count
    have least : min needed (UInt32.size - 1) < UInt32.size :=
      Nat.lt_of_le_of_lt (Nat.min_le_right _ _) (by decide)
    rw [count, UInt32.toNat_ofNat_of_lt' least] at few
    have cap : UInt32.size - 1 = 4294967295 := rfl
    omega
  have covers := (Plan.partsNeeded_spec (Plan.partSize_pos length size)
    length.toNat).1
  have most := Nat.mul_le_mul needed large
  have bound : Plan.maxPartSize.toNat = 5368709120 := rfl
  have counts : UInt32.size = 4294967296 := rfl
  have lengths : UInt64.size = 18446744073709551616 := rfl
  exact ⟨by omega, by omega⟩

/-- A plan that is accepted cuts the content exactly. -/
theorem isExact_of_startPlan {uploader : Uploader} {length : UInt64}
    {plan : Plan} (configured : uploader.IsConfigured)
    (accepted : uploader.startPlan length = .ok plan) :
    plan = .ofLength length uploader.partSize ∧
      Plan.IsExact length uploader.partSize := by
  rcases checkCount_eq_ok accepted with ⟨rfl, few⟩
  exact ⟨rfl, isExact_of_partCount few configured.partSize_le⟩

end Multipart.Uploader
