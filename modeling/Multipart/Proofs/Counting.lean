import Multipart.Proofs.Counting.Shelved
import Multipart.Proofs.Counting.Tallied
import Multipart.Proofs.Settling

/-!
# What is counted as done

The number of parts that an upload tells as done is exact at every moment,
and so is every checkpoint that it hands out: the parts that count are those
of the plan for which a receipt was given and those that have landed since,
each of them once.  And a store that has the upload has all of them.  The
main statement is `counted_exactly`.
-/

namespace Multipart

variable {World Content Phase : Type} {target : Target} {plan : Plan}
  {existing : PartTable Receipt}

/-- Holds of a session that tells of its parts as they are. -/
structure Session.Counts (session : Session) (plan : Plan)
    (before : List PartNumber) (events : List Event) : Prop where
  exact : session.partsDone = (doneParts before events).card
  within : session.partsDone ≤ plan.partCount.toNat
  whole : session.state = .completed →
    session.partsDone = plan.partCount.toNat

/-- Holds of a moment that tells of the parts as they are by then. -/
structure Moment.Counts (target : Target) (plan : Plan)
    (before : List PartNumber) (front : History) (moment : Moment) :
    Prop where
  counts : moment.session.Counts plan before front.events
  /-- A checkpoint that is handed out names the upload and its plan, -/
  names : ∀ checkpoint, moment.event.checkpoint? = some checkpoint →
    checkpoint.Names target plan
  /-- and it tells how many parts are done. -/
  tells : ∀ checkpoint, moment.event.checkpoint? = some checkpoint →
    checkpoint.partsDone.toNat = moment.session.partsDone

/-- Holds of two checkpoints that differ by a larger count at most. -/
def Checkpoint.Grows (earlier later : Checkpoint) : Prop :=
  later = { earlier with partsDone := later.partsDone } ∧
    earlier.partsDone ≤ later.partsDone

namespace Session

variable {session : Session} {events : List Event}

/-- Only an upload that has completed is seen as completed. -/
theorem completed_of_state (ended : session.state = .completed) :
    session.completed = true := by
  rw [state] at ended
  grind

namespace Tallies

/-- No part counts that is not in the plan. -/
theorem subset (tallies : session.Tallies plan existing events)
    (within : ∀ number ∈ existing.numbers, plan.contains number = true) :
    doneParts existing.numbers events ⊆ plan.numbers.toFinset := by
  intro number counts
  rw [List.mem_toFinset, Plan.mem_numbers]
  rcases mem_doneParts.mp counts with old | new
  · exact within number old
  · exact (tallies.apart new).1

/-- The tallies of a session are what it tells. -/
theorem counts (tallies : session.Tallies plan existing events)
    (within : ∀ number ∈ existing.numbers, plan.contains number = true) :
    session.Counts plan existing.numbers events where
  exact := tallies.partsDone_eq
  within := by
    rw [tallies.partsDone_eq, ← plan.length_numbers]
    exact (Finset.card_le_card (tallies.subset within)).trans
      plan.numbers.toFinset_card_le
  whole ended := by
    have whole : plan.numbers.toFinset ⊆
        doneParts existing.numbers events := by
      intro number contained
      rw [List.mem_toFinset, Plan.mem_numbers] at contained
      exact tallies.mem_numbers.mp
        (tallies.whole (completed_of_state ended) number contained)
    rw [tallies.partsDone_eq,
      Finset.Subset.antisymm (tallies.subset within) whole,
      List.toFinset_card_of_nodup plan.nodup_numbers, plan.length_numbers]

end Tallies

/-- The checkpoint of a session that counts its parts tells their number. -/
theorem Counts.toNat_partsDone {before : List PartNumber}
    (counts : session.Counts plan before events) :
    session.checkpoint.partsDone.toNat = session.partsDone := by
  have small : session.partsDone < UInt32.size :=
    counts.within.trans_lt plan.partCount_lt
  have same : min session.partsDone (UInt32.size - 1) =
      session.partsDone := by omega
  rw [checkpoint, same]
  exact UInt32.toNat_ofNat_of_lt' small

end Session

/-- Moments that show the tallies of their sessions tell of the parts. -/
theorem Moment.Shows.counts {front : History} {moment : Moment}
    (shows : moment.Shows target plan existing front)
    (within : ∀ number ∈ existing.numbers, plan.contains number = true) :
    moment.Counts target plan existing.numbers front := by
  have counts := shows.tallies.counts within
  refine ⟨counts, fun checkpoint handed => ?_, fun checkpoint handed => ?_⟩
  · rw [shows.hands checkpoint handed]
    exact shows.follows.names
  · rw [shows.hands checkpoint handed]
    exact counts.toNat_partsDone

/-! ## One moment after another -/

namespace History

variable {history : History} {before : List PartNumber}

theorem Always.of_mem {allowed : History → Moment → Prop}
    (always : history.Always allowed) {moment : Moment}
    (member : moment ∈ history) : ∃ front, allowed front moment := by
  obtain ⟨front, rest, split⟩ := List.append_of_mem member
  exact ⟨front, always front moment rest split⟩

/-- What is counted never decreases from one moment to the next. -/
theorem pairwise_partsDone
    (always : history.Always (Moment.Counts target plan before)) :
    history.Pairwise fun earlier later =>
      earlier.session.partsDone ≤ later.session.partsDone := by
  have count (index : Nat) (inside : index < history.length) :
      history[index].session.partsDone =
        (doneParts before (events (history.take index))).card :=
    (always _ _ (history.drop (index + 1)) (by simp)).counts.exact
  rw [List.pairwise_iff_getElem]
  intro first second firstInside secondInside earlier
  rw [count first firstInside, count second secondInside]
  refine Finset.card_le_card (doneParts_mono ?_)
  exact (List.take_prefix_take_left earlier.le).map _

/-- What is counted at a moment is no more than what counts in the end. -/
theorem partsDone_le
    (always : history.Always (Moment.Counts target plan before))
    {moment : Moment} (member : moment ∈ history) :
    moment.session.partsDone ≤
      (doneParts before history.events).card := by
  obtain ⟨front, rest, rfl⟩ := List.append_of_mem member
  rw [(always front moment rest rfl).counts.exact]
  refine Finset.card_le_card (doneParts_mono ?_)
  exact (List.prefix_append _ _).map _

/-- Of two checkpoints the second has a larger count at most. -/
theorem pairwise_grows
    (always : history.Always (Moment.Counts target plan before)) :
    (history.filterMap (·.event.checkpoint?)).Pairwise
      Checkpoint.Grows := by
  rw [List.pairwise_filterMap]
  refine (pairwise_partsDone always).imp_of_mem
    fun {earlier later} member other counted first handed second again => ?_
  obtain ⟨_, shows⟩ := always.of_mem member
  obtain ⟨_, other⟩ := always.of_mem other
  constructor
  · have names := shows.names first handed
    have same := other.names second again
    rw [Checkpoint.mk.injEq]
    exact ⟨same.id.trans names.id.symm,
      same.partSize.trans names.partSize.symm,
      same.totalParts.trans names.totalParts.symm, rfl⟩
  · rw [UInt32.le_iff_toNat_le, shows.tells first handed,
      other.tells second again]
    exact counted

end History

/-! ## Every run -/

/-- The parts for which receipts were given are those of the plan. -/
theorem Progress.toFinset_numbers (plan : Plan) (given : List Receipt) :
    (ofReceipts (given.filter fun receipt =>
        plan.contains receipt.number)).existing.numbers.toFinset =
      ((given.map (·.number)).filter plan.contains).toFinset := by
  ext number
  rw [List.mem_toFinset, List.mem_toFinset, PartTable.mem_numbers, ne_eq,
    find?_existing_eq_none, not_not, List.filter_map]
  rfl

/-- Only which parts there were before matters, not their order. -/
theorem doneParts_congr {left right : List PartNumber}
    (same : left.toFinset = right.toFinset) (events : List Event) :
    doneParts left events = doneParts right events := by
  rw [doneParts, doneParts, List.toFinset_append, List.toFinset_append,
    same]

theorem Session.Counts.congr {session : Session} {events : List Event}
    {left right : List PartNumber}
    (counts : session.Counts plan left events)
    (same : left.toFinset = right.toFinset) :
    session.Counts plan right events where
  exact := by rw [← doneParts_congr same, counts.exact]
  within := counts.within
  whole := counts.whole

theorem Moment.Counts.congr {front : History} {moment : Moment}
    {left right : List PartNumber}
    (counts : moment.Counts target plan left front)
    (same : left.toFinset = right.toFinset) :
    moment.Counts target plan right front where
  counts := counts.counts.congr same
  names := counts.names
  tells := counts.tells

/--
What an upload counts is exact, whatever receipts it was given and whatever
its client makes of its requests, as long as a receipt has the number that it
is asked for.  At every moment and in the end as many parts are done as are
in the plan and were given a receipt, or have landed; this never decreases,
never exceeds the number of parts and reaches it when the upload completes.
A checkpoint that is handed out names the upload and its plan and tells that
number, so that of two the second may only have a larger count.  In front of
a store every part that counts is in the store, as long as it has the upload.
-/
theorem counted_exactly (host : Host World Content Phase)
    (numbered : host.IsNumbered) (world : World) (uploader : Uploader)
    (target : Target) (plan : Plan) (given : List Receipt)
    (content : Content) (moves : List (Move World Content)) :
    let begun : Place (Recorded World) Content (Marked Phase) :=
      Place.begin world (uploader.upload target plan given content)
    let final := begun.replay host moves
    let history := final.world.history
    let before := (given.map (·.number)).filter plan.contains
    final.upload.session.Counts plan before history.events ∧
      history.Always (Moment.Counts target plan before) ∧
      (history.map (·.session.partsDone) ++
        [final.upload.session.partsDone]).Pairwise (· ≤ ·) ∧
      (history.filterMap (·.event.checkpoint?)).Pairwise
        Checkpoint.Grows ∧
      ∀ (store : World → Store) (length : UInt64)
        (token : Option Checkpoint),
        host.Relays store target.id →
        uploader.Obtains length target plan (store world) token given →
        begun.Runs host store target.id final →
        ∀ active,
          (store final.world.world).upload? target.id = some active →
          ∀ number ∈ doneParts before history.events,
            ∃ receipt part,
              final.upload.session.progress.receipt? number =
                  some receipt ∧
                active.parts.find? number = some part ∧
                part.tag = receipt.tag := by
  intro begun final history before
  let existing := (Progress.ofReceipts
    (given.filter fun receipt => plan.contains receipt.number)).existing
  have kept : Tallying target plan existing final :=
    (Tallying.keeps numbered).replay
      (Tallying.begin world target plan given uploader.limit content)
      moves
  have same : existing.numbers.toFinset = before.toFinset :=
    Progress.toFinset_numbers plan given
  have within : ∀ number ∈ existing.numbers,
      plan.contains number = true := by
    intro number member
    rw [← List.mem_toFinset, same, List.mem_toFinset] at member
    exact List.of_mem_filter member
  have ended : final.upload.session.Counts plan before history.events :=
    (kept.tallied.tallies.counts within).congr same
  have always : history.Always (Moment.Counts target plan before) :=
    fun front moment rest split =>
      ((kept.tallied.shows front moment rest split).counts within).congr
        same
  refine ⟨ended, always, ?_, History.pairwise_grows always, ?_⟩
  · rw [List.pairwise_append, List.pairwise_map]
    refine ⟨History.pairwise_partsDone always,
      List.pairwise_singleton _ _, fun count listed other last => ?_⟩
    obtain ⟨moment, member, rfl⟩ := List.mem_map.mp listed
    rw [List.mem_singleton.mp last, ended.exact]
    exact History.partsDone_le always member
  · intro store length token relays obtains runs active there number
      counts
    have begins : Shelved store target plan existing begun :=
      ⟨Upload.sound_ofPlan target plan given uploader.limit content,
        obtains.shelves⟩
    have shelved := ((Shelved.lasts relays).runs begins runs).shelves
    rw [← doneParts_congr same, ← kept.tallied.tallies.mem_numbers] at counts
    exact shelved.find?_parts there counts

/-- The upload in two parts of which the store has the first. -/
def Host.halfPlace : Place (Recorded Store) Bytes (Marked Unit) :=
  Place.begin (directStore (.part directTarget .first [1, 2]))
    (({} : Uploader).upload directTarget (.ofLength 3 2) [directReceipt]
      [1, 2, 3])

/--
Paused before it is polled and again after that, this upload hands out the
same checkpoint twice, and the store has the part that it tells.
-/
theorem counted_direct :
    let final := Host.halfPlace.replay Host.direct [.pause, .poll, .pause]
    final.world.history.filterMap (·.event.checkpoint?) =
        [Host.directToken 1, Host.directToken 1] ∧
      final.upload.session.Counts (.ofLength 3 2) [.first]
        final.world.history.events ∧
      ∃ active part,
        final.world.world.upload? Host.directTarget.id = some active ∧
          active.parts.find? .first = some part := by
  intro final
  have counted := counted_exactly Host.direct
    (Host.relays_direct Host.directTarget.id).isNumbered
    (Host.directStore (.part Host.directTarget .first [1, 2])) {}
    Host.directTarget (.ofLength 3 2) [Host.directReceipt]
    [1, 2, 3] [.pause, .poll, .pause]
  have runs : Host.halfPlace.Runs Host.direct (·) Host.directTarget.id
      final :=
    .move (.move (.move .rest .pause nofun) .poll nofun) .pause nofun
  have counts : PartNumber.first ∈
      doneParts [.first] final.world.history.events :=
    mem_doneParts.mpr (.inl List.mem_cons_self)
  have there : (final.world.world.upload? Host.directTarget.id).isSome =
      true := by decide +kernel
  obtain ⟨active, found⟩ := Option.isSome_iff_exists.mp there
  obtain ⟨_, part, _, held, _⟩ := counted.2.2.2.2 (·) 3
    (some (Host.directToken 1)) (Host.relays_direct _) Host.obtains_held
    runs active found .first counts
  exact ⟨by decide +kernel, counted.1, active, part, found, held⟩

end Multipart
