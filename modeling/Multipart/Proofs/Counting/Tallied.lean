import Mathlib.Data.Finset.Card
import Multipart.Proofs.Sending
import Multipart.Proofs.Stamping

/-!
# What a session counts

The number of parts that are done is a sum of two sizes, and it is right only
as long as no part is in both tables.  A part is recorded at the moment it
lands, no part lands that was there before, and the upload completes with a
receipt for every part of its plan.  So at every moment, also in the middle
of a poll, a session counts the parts that were there before and those that
have landed by then.
-/

namespace Multipart

variable {World Content Phase : Type} {target : Target} {plan : Plan}
  {existing : PartTable Receipt}

/-- The parts that were there before, and those that have landed. -/
def doneParts (before : List PartNumber) (events : List Event) :
    Finset PartNumber :=
  (before ++ landed events).toFinset

theorem mem_doneParts {before : List PartNumber} {events : List Event}
    {number : PartNumber} :
    number ∈ doneParts before events ↔
      number ∈ before ∨ number ∈ landed events := by
  rw [doneParts, List.mem_toFinset, List.mem_append]

/-- What counts goes on counting. -/
theorem doneParts_mono {before : List PartNumber}
    {events later : List Event} (grows : events <+: later) :
    doneParts before events ⊆ doneParts before later := by
  intro number counts
  obtain ⟨more, rfl⟩ := grows
  rw [mem_doneParts, landed_append] at *
  exact counts.imp_right (List.mem_append_left _)

/-! ## Sessions -/

namespace Session

/-- What is known of the receipts of a session after some events. -/
structure Tallies (session : Session) (plan : Plan)
    (existing : PartTable Receipt) (events : List Event) : Prop where
  existed : session.progress.existing = existing
  recorded : ∀ {number},
    session.progress.recorded.find? number ≠ none ↔ number ∈ landed events
  /-- Only parts of the plan land, and none that was there before. -/
  apart : ∀ {number}, number ∈ landed events →
    plan.contains number = true ∧ existing.find? number = none
  whole : session.completed = true → ∀ number,
    plan.contains number = true → number ∈ session.progress.numbers

namespace Tallies

variable {session later : Session} {events : List Event}

/-- The parts that have a receipt are those that count. -/
theorem mem_numbers (tallies : session.Tallies plan existing events)
    {number : PartNumber} :
    number ∈ session.progress.numbers ↔
      number ∈ doneParts existing.numbers events := by
  rw [Progress.mem_numbers, mem_doneParts, PartTable.mem_numbers,
    tallies.existed, tallies.recorded]

/-- As many parts are done as count. -/
theorem partsDone_eq (tallies : session.Tallies plan existing events) :
    session.partsDone = (doneParts existing.numbers events).card := by
  have distinct : session.progress.numbers.Nodup := by
    refine Progress.nodup_numbers fun number recorded => ?_
    rw [tallies.existed]
    exact (tallies.apart (tallies.recorded.mp recorded)).2
  have same : session.progress.numbers.toFinset =
      doneParts existing.numbers events := by
    ext number
    rw [List.mem_toFinset, tallies.mem_numbers]
  rw [← same, List.toFinset_card_of_nodup distinct,
    Progress.length_numbers]
  rfl

theorem congr (tallies : session.Tallies plan existing events)
    (same : later.account = session.account) :
    later.Tallies plan existing events := by
  have progress := Session.progress_of_account same
  have completed : later.completed = session.completed :=
    congrArg (·.2.2.2) same
  constructor
  · rw [progress]
    exact tallies.existed
  · rw [progress]
    exact tallies.recorded
  · exact tallies.apart
  · rw [progress, completed]
    exact tallies.whole

/-- An event may come that lands no part. -/
theorem note (tallies : session.Tallies plan existing events)
    {event : Event} (unlanded : event.lands = false) :
    session.Tallies plan existing (events ++ [event]) := by
  have same : landed (events ++ [event]) = landed events := by
    rw [landed_append]
    rw [landed, landed, List.filterMap_cons_none
      (Event.landing?_eq_none unlanded)]
    exact List.append_nil _
  constructor
  · exact tallies.existed
  · rw [same]
    exact tallies.recorded
  · rw [same]
    exact tallies.apart
  · exact tallies.whole

/-- A part lands, and its receipt is recorded. -/
theorem record (tallies : session.Tallies plan existing events)
    {aim : Target} {number : PartNumber} {body : Bytes} {receipt : Receipt}
    (within : plan.contains number = true)
    (absent : existing.find? number = none)
    (numbered : receipt.number = number) :
    (session.record receipt).Tallies plan existing
      (events ++ [.answered (.part aim number body) (.ok receipt)]) := by
  have landing : landed (events ++
      [.answered (.part aim number body) (.ok receipt)]) =
        landed events ++ [number] :=
    landed_append _ _
  have recorded (other : PartNumber) :
      (session.progress.record receipt).recorded.find? other ≠ none ↔
        other ∈ landed events ++ [number] := by
    rw [Progress.find?_recorded_record, numbered, List.mem_append,
      List.mem_singleton, ← tallies.recorded]
    split
    · rename_i same
      exact iff_of_true (Option.some_ne_none receipt) (.inr same)
    · rename_i differs
      exact (or_iff_left differs).symm
  constructor
  · exact tallies.existed
  · rw [landing]
    exact recorded _
  · intro other lands
    rw [landing] at lands
    rcases List.mem_append.mp lands with old | new
    · exact tallies.apart old
    · rw [List.mem_singleton.mp new]
      exact ⟨within, absent⟩
  · intro completed other contained
    have before := tallies.whole completed other contained
    rw [Progress.mem_numbers] at before ⊢
    refine before.imp_right fun found => ?_
    exact (recorded other).mpr
      (List.mem_append_left _ (tallies.recorded.mp found))

/-- The upload completes with a receipt for every part. -/
theorem complete (tallies : session.Tallies plan existing events)
    (whole : ∀ number, plan.contains number = true →
      number ∈ session.progress.numbers) :
    { session with completed := true }.Tallies plan existing events :=
  { tallies with whole := fun _ => whole }

end Tallies

end Session

/-! ## Every moment -/

/-- What a moment shows of its session after those before it. -/
structure Moment.Shows (target : Target) (plan : Plan)
    (existing : PartTable Receipt) (before : History)
    (moment : Moment) : Prop where
  follows : moment.session.Follows target plan
  tallies : moment.session.Tallies plan existing before.events
  /-- A checkpoint that is handed out is the one of the session. -/
  hands : ∀ checkpoint, moment.event.checkpoint? = some checkpoint →
    checkpoint = moment.session.checkpoint

/-- What is known of a session and of its history. -/
structure Session.Tallied (target : Target) (plan : Plan)
    (existing : PartTable Receipt) (session : Session)
    (history : History) : Prop where
  follows : session.Follows target plan
  tallies : session.Tallies plan existing history.events
  shows : history.Always (Moment.Shows target plan existing)

/-- All of this lasts while the session is watched. -/
theorem Session.watches_tallied (target : Target) (plan : Plan)
    (existing : PartTable Receipt) :
    Watches (Session.Tallied target plan existing) where
  note {session history event} tallied silent unlanded :=
    { follows := tallied.follows
      tallies := by
        rw [History.events, List.map_append]
        exact tallied.tallies.note unlanded
      shows := History.always_concat tallied.shows
        { follows := tallied.follows
          tallies := tallied.tallies
          hands := fun checkpoint handed => by
            cases silent.symm.trans handed } }
  pause {session history} tallied := by
    have same := session.account_pause
    have follows : session.pause.1.Follows target plan :=
      ⟨(congrArg (·.1) same).trans tallied.follows.aimed,
        (congrArg (·.2.1) same).trans tallied.follows.planned⟩
    have tallies := tallied.tallies.congr same
    refine ⟨follows, ?_, History.always_concat tallied.shows
      ⟨follows, tallies, fun _ => session.checkpoint_pause⟩⟩
    rw [History.events, List.map_append]
    exact tallies.note rfl
  congr {session later history} tallied same :=
    { follows :=
        ⟨(congrArg (·.1) same).trans tallied.follows.aimed,
          (congrArg (·.2.1) same).trans tallied.follows.planned⟩
      tallies := tallied.tallies.congr same
      shows := tallied.shows }

/-! ## Every run -/

/-- What is known of an upload that counts its parts. -/
structure Tallying (target : Target) (plan : Plan)
    (existing : PartTable Receipt)
    (place : Place (Recorded World) Content (Marked Phase)) : Prop where
  sending : Sending target plan existing place
  accounted : Accounted target plan existing place
  tallied :
    place.upload.session.Tallied target plan existing place.world.history

namespace Tallying

variable {host : Host World Content Phase}
  {place later : Place (Recorded World) Content (Marked Phase)}

/-- Every step leaves a session that counts what has landed. -/
theorem step (numbered : host.IsNumbered)
    (tallying : Tallying target plan existing place)
    (unresolved : place.upload.resolved = false)
    {outcome : Option Outcome}
    (step : Step host.recording place later outcome) :
    Tallying target plan existing later where
  sending := tallying.sending.step unresolved step
  accounted := tallying.accounted.step numbered unresolved step
  tallied := by
    refine (Session.watches_tallied target plan existing).step
      tallying.tallied ?_ ?_ step
    · intro flight receipt session history flying answer tallied
      have brings :=
        (tallying.sending.carries _ List.prefix_rfl).flying flight flying
      have same : receipt.number = flight.number :=
        numbered _ _ _ _ _ _ _ (Response.eq_of_mark_eq_finished answer)
      refine ⟨⟨tallied.follows.aimed, tallied.follows.planned⟩, ?_,
        History.always_concat tallied.shows
          ⟨tallied.follows, tallied.tallies, nofun⟩⟩
      rw [History.events, List.map_append]
      exact tallied.tallies.record brings.within brings.absent same
    · intro closing session history closed progress tallied
      have ready := (tallying.accounted.accounts.closing closing closed).2
      refine ⟨⟨tallied.follows.aimed, tallied.follows.planned⟩,
        tallied.tallies.complete fun number contained => ?_, tallied.shows⟩
      have member : session.progress.receipt? number ∈
          closing.receipts.map some := by
        rw [ready, progress]
        exact List.mem_map_of_mem (Plan.mem_numbers.mpr contained)
      obtain ⟨receipt, _, found⟩ := List.mem_map.mp member
      rw [Progress.mem_numbers]
      rcases Option.or_eq_some_iff.mp found.symm with old | ⟨_, new⟩
      · exact .inl (by rw [old]; exact Option.some_ne_none receipt)
      · exact .inr (by rw [new]; exact Option.some_ne_none receipt)

/-- An event that is no fact may be written down. -/
theorem note (tallying : Tallying target plan existing place)
    {event : Event} (idle : event.isFact = false)
    (tallied : (place.note event).upload.session.Tallied target plan
      existing (place.note event).world.history) :
    Tallying target plan existing (place.note event) where
  sending := tallying.sending.note idle
  accounted := tallying.accounted.note idle
  tallied := tallied

/-- Whatever is done with an upload, it counts what has landed. -/
theorem keeps (numbered : host.IsNumbered) :
    Keeps host (Tallying target plan existing)
      (Tallying target plan existing) where
  activate tallying _ :=
    { sending := tallying.sending.activate
      accounted := tallying.accounted.activate
      tallied := (Session.watches_tallied target plan existing).congr
        tallying.tallied rfl }
  step tallying unresolved step :=
    tallying.step numbered unresolved step
  returns tallying unresolved last := by
    have after := tallying.step numbered unresolved last
    exact after.note rfl
      ((Session.watches_tallied target plan existing).note after.tallied
        rfl rfl)
  again tallying _ :=
    tallying.note rfl
      ((Session.watches_tallied target plan existing).note
        tallying.tallied rfl rfl)
  pause {place} tallying := by
    have heard := Upload.heard_pause place.upload
    have tallied :=
      (Session.watches_tallied target plan existing).paused
        tallying.tallied
    exact
      { sending := (tallying.sending.heard heard).note rfl
        accounted := (tallying.accounted.heard heard).note rfl
        tallied }
  wake {place} number tallying :=
    { sending :=
        tallying.sending.heard (Upload.heard_signal _ (.wakePart number))
      accounted :=
        tallying.accounted.heard (Upload.heard_signal _ (.wakePart number))
      tallied := by
        rw [place.session_wake number]
        exact tallying.tallied }
  change change tallying :=
    { sending := tallying.sending.change _
      accounted := tallying.accounted.change _
      tallied := tallying.tallied }
  feed feed tallying :=
    { sending := tallying.sending.feed feed
      accounted := tallying.accounted.feed feed
      tallied := tallying.tallied }

/-- Nothing has landed before an upload is driven. -/
theorem begin (world : World) (target : Target) (plan : Plan)
    (given : List Receipt) (limit : Option Nat) (content : Content) :
    Tallying target plan
      (Progress.ofReceipts
        (given.filter fun receipt =>
          plan.contains receipt.number)).existing
      (Place.begin world (.ofPlan target plan given limit content) :
        Place (Recorded World) Content (Marked Phase)) where
  sending := Sending.begin world target plan given limit content
  accounted := Accounted.begin world target plan given limit content
  tallied :=
    { follows := ⟨rfl, rfl⟩
      tallies :=
        { existed := rfl
          recorded := iff_of_false (not_not_intro rfl) List.not_mem_nil
          apart := fun lands => by cases lands
          whole := fun completed => by cases completed }
      shows := History.always_nil }

end Tallying

end Multipart
