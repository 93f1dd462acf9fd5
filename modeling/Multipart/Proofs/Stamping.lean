import Multipart.Proofs.Checkpoint
import Multipart.Proofs.Upload.Keeping
import Multipart.Proofs.Upload.Sound

/-!
# What a checkpoint names

Every checkpoint that an upload hands out, at whatever moment it is asked for
a pause, names the upload itself and the plan that it follows.
-/

namespace Multipart

variable {World Content Phase : Type} {target : Target} {plan : Plan}
  {existing : PartTable Receipt}

namespace History

/-- Holds of a checkpoint that was handed out. -/
def Hands (history : History) (checkpoint : Checkpoint) : Prop :=
  ∃ moment ∈ history, moment.event.checkpoint? = some checkpoint

/-- Holds when only checkpoints for one upload were handed out. -/
def Stamps (history : History) (target : Target) (plan : Plan) : Prop :=
  ∀ checkpoint, history.Hands checkpoint → checkpoint.Names target plan

theorem stamps_nil : Stamps [] target plan := by
  rintro checkpoint ⟨moment, member, _⟩
  cases member

/-- A checkpoint may be handed out if it is for the upload. -/
theorem Stamps.concat {history : History} {last : Moment}
    (stamps : history.Stamps target plan)
    (next : ∀ checkpoint, last.event.checkpoint? = some checkpoint →
      checkpoint.Names target plan) :
    Stamps (history ++ [last]) target plan := by
  rintro checkpoint ⟨moment, member, handed⟩
  rcases List.mem_append.mp member with old | new
  · exact stamps checkpoint ⟨moment, old, handed⟩
  · obtain rfl := List.mem_singleton.mp new
    exact next checkpoint handed

/-- What happens without a checkpoint may always happen. -/
theorem Stamps.silent {history : History} {last : Moment}
    (stamps : history.Stamps target plan)
    (silent : last.event.checkpoint? = none) :
    Stamps (history ++ [last]) target plan :=
  stamps.concat fun checkpoint handed => by
    rw [silent] at handed
    cases handed

end History

/-! ## Every step -/

/-- Holds of a session for an upload and its plan. -/
structure Session.Follows (session : Session) (target : Target)
    (plan : Plan) : Prop where
  aimed : session.target = target
  planned : session.plan = plan

/-- The checkpoint of a session is for its upload. -/
theorem Session.Follows.names {session : Session}
    (follows : session.Follows target plan) :
    session.checkpoint.Names target plan where
  id := congrArg Target.id follows.aimed
  partSize := congrArg Plan.partSize follows.planned
  totalParts := congrArg Plan.partCount follows.planned

/-- What is handed out is for the upload, as long as its session is. -/
theorem History.tells_stamps (target : Target) (plan : Plan) :
    Tells fun session history =>
      session.Follows target plan ∧ history.Stamps target plan where
  note known silent := ⟨known.1, known.2.silent silent⟩
  pause {session history} known := by
    have same := session.account_pause
    have follows : session.pause.1.Follows target plan :=
      ⟨(congrArg (·.1) same).trans known.1.aimed,
        (congrArg (·.2.1) same).trans known.1.planned⟩
    refine ⟨follows, known.2.concat fun checkpoint handed => ?_⟩
    rw [session.checkpoint_pause handed]
    exact follows.names
  congr known aimed planned _ :=
    ⟨⟨aimed.trans known.1.aimed, planned.trans known.1.planned⟩, known.2⟩
  fail known _ := ⟨⟨known.1.aimed, known.1.planned⟩, known.2⟩

/-- What is known of the checkpoints of an upload. -/
structure Stamped (target : Target) (plan : Plan)
    (existing : PartTable Receipt)
    (place : Place (Recorded World) Content (Marked Phase)) : Prop where
  sound : place.upload.Sound target plan existing
  stamps : place.world.history.Stamps target plan

namespace Stamped

variable {place later : Place (Recorded World) Content (Marked Phase)}

theorem follows (stamped : Stamped target plan existing place) :
    place.upload.session.Follows target plan :=
  ⟨stamped.sound.aimed, stamped.sound.planned⟩

/-- Every step hands out checkpoints for the upload only. -/
theorem step {host : Host World Content Phase}
    (stamped : Stamped target plan existing place)
    (unresolved : place.upload.resolved = false)
    {outcome : Option Outcome}
    (step : Step host.recording place later outcome) :
    Stamped target plan existing later where
  sound := stamped.sound.step unresolved step
  stamps := ((History.tells_stamps target plan).step
    ⟨stamped.follows, stamped.stamps⟩ step).2

/-- Every move does so, whatever is done with an upload. -/
theorem keeps (host : Host World Content Phase) :
    Keeps host (Stamped target plan existing)
      (Stamped target plan existing) where
  activate stamped _ := ⟨stamped.sound.activate, stamped.stamps⟩
  step stamped unresolved step := stamped.step unresolved step
  returns stamped unresolved step := by
    have last := stamped.step unresolved step
    exact ⟨last.sound, last.stamps.silent rfl⟩
  again stamped _ := ⟨stamped.sound, stamped.stamps.silent rfl⟩
  pause stamped :=
    ⟨stamped.sound.heard (Upload.heard_pause _),
      ((History.tells_stamps target plan).hears.paused
        ⟨stamped.follows, stamped.stamps⟩).2⟩
  wake number stamped :=
    ⟨stamped.sound.heard (Upload.heard_signal _ (.wakePart number)),
      stamped.stamps⟩
  change _ stamped := ⟨stamped.sound, stamped.stamps⟩
  feed feed stamped := ⟨stamped.sound.feed feed, stamped.stamps⟩

end Stamped

end Multipart
