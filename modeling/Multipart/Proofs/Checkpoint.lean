import Multipart.Checkpoint
import Multipart.Proofs.Json.RoundTrip
import Multipart.Proofs.Uploader

/-!
# Checkpoints and the plans that they name

A checkpoint is read back from its written form as it was.  It names a plan
by the size of the parts and their count, and whoever has the length of the
content makes the same plan from it again.
-/

namespace Multipart

/-- A checkpoint survives its written form. -/
theorem Checkpoint.ofJson_written (checkpoint : Checkpoint) :
    ofJson checkpoint.toJson = .ok checkpoint := by
  have fills : Json.Fills record.fields record.blank
      [("uploadId", Json.writeText checkpoint.id.text),
        ("partSize", Json.writeCount checkpoint.partSize.toNat),
        ("totalPartCount", Json.writeCount checkpoint.totalParts.toNat),
        ("numPartsCompleted", Json.writeCount checkpoint.partsDone.toNat)]
      ⟨some checkpoint.id.text, some checkpoint.partSize.toNat,
        some checkpoint.totalParts.toNat,
        some checkpoint.partsDone.toNat⟩ :=
    .cons rfl rfl
      (fun _ => Json.Field.fill_of (Json.expectText_writeText _ _))
      (.cons rfl rfl
        (fun ends => Json.Field.fill_of
          (Json.expectCount_writeCount checkpoint.partSize.toNat_lt
            (by decide) ends))
        (.cons rfl rfl
          (fun ends => Json.Field.fill_of
            (Json.expectCount_writeCount checkpoint.totalParts.toNat_lt
              (by decide) ends))
          (.cons rfl rfl
            (fun ends => Json.Field.fill_of
              (Json.expectCount_writeCount checkpoint.partsDone.toNat_lt
                (by decide) ends))
            .nil)))
  have finish : record.finish
      ⟨some checkpoint.id.text, some checkpoint.partSize.toNat,
        some checkpoint.totalParts.toNat,
        some checkpoint.partsDone.toNat⟩ = .ok checkpoint := by
    simp [record, Json.require, bind, Except.bind, pure, Except.pure]
  rw [ofJson, toJson, Json.readDocument_of_gives
    (record.read_writeObject fills finish [])]

/-- Holds of a checkpoint that is for an upload and its plan. -/
structure Checkpoint.Names (checkpoint : Checkpoint) (target : Target)
    (plan : Plan) : Prop where
  id : checkpoint.id = target.id
  partSize : checkpoint.partSize = plan.partSize
  totalParts : checkpoint.totalParts = plan.partCount

/-- An upload is resumed with the plan that it was started with. -/
theorem Checkpoint.Names.resumePlan_eq {checkpoint : Checkpoint}
    {target : Target} {plan : Plan} (names : checkpoint.Names target plan)
    {uploader : Uploader} {length : UInt64}
    (accepted : uploader.startPlan length = .ok plan) :
    Uploader.resumePlan checkpoint length = .ok plan := by
  rcases Uploader.checkCount_eq_ok accepted with ⟨rfl, -⟩
  rw [Uploader.plan] at names
  rw [Uploader.resumePlan, names.partSize, names.totalParts,
    Plan.ofLength_partSize, if_pos rfl]
  exact accepted

end Multipart
