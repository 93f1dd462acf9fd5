import Multipart.Proofs.Upload.Watching

/-!
# What a recorded run keeps

A property of an upload and its history is kept by every recorded run if each
kind of move keeps it, and a poll keeps it if each of its steps does.  Inside
a poll less may be known than between two polls, and so such a property has
two sides.  The main statement, `Keeps.replay`, is the induction over runs that
all such properties share; `Lasts` is for properties that are the same on
both sides and need the surroundings to be left alone.  Two parts of it come
up again and again and are told here once: `Tells.step` for what a history
says of the verdict, and `History.Always.step` for what may happen at a
moment, where only the requests that a step may poll have to be looked at.
-/

namespace Multipart

variable {World Content Phase : Type}

/-! ## The induction over runs -/

/--
What makes a property of recorded uploads last: `Kept` is known between polls
and `During` in the middle of one.
-/
structure Keeps (host : Host World Content Phase)
    (Kept During : Place (Recorded World) Content (Marked Phase) → Prop) :
    Prop where
  activate : ∀ {place}, Kept place → place.upload.resolved = false →
    During place.activate
  step : ∀ {place later}, During place →
    place.upload.resolved = false →
    Step host.recording place later none → During later
  returns : ∀ {place later outcome}, During place →
    place.upload.resolved = false →
    Step host.recording place later (some outcome) →
    Kept (later.note (.returned outcome))
  again : ∀ {place}, Kept place → place.upload.resolved = true →
    Kept (place.note (.returned (.faulted .alreadyResolved)))
  pause : ∀ {place}, Kept place →
    Kept (place.pause.note (.paused place.upload.pause.2.1))
  wake : ∀ {place} (number : PartNumber), Kept place →
    Kept (place.wake number)
  change : ∀ {place} (change : World → World), Kept place →
    Kept (place.change fun recorded =>
      { recorded with world := change recorded.world })
  feed : ∀ {place} (feed : Content → Content), Kept place →
    Kept (place.feed feed)

namespace Keeps

variable {host : Host World Content Phase}
  {Kept During : Place (Recorded World) Content (Marked Phase) → Prop}
  {place : Place (Recorded World) Content (Marked Phase)}

/-- What every step keeps is known between any two steps of a poll. -/
theorem steps (keeps : Keeps host Kept During) (during : During place)
    (unresolved : place.upload.resolved = false)
    {later : Place (Recorded World) Content (Marked Phase)}
    (steps : Steps host.recording place later) :
    During later ∧ later.upload.resolved = false := by
  induction steps with
  | refl => exact ⟨during, unresolved⟩
  | tail before step ih =>
      exact ⟨keeps.step ih.1 ih.2 step, step.unresolved rfl ih.2⟩

theorem poll (keeps : Keeps host Kept During) (kept : Kept place) :
    Kept (place.record host .poll) := by
  change Kept ((place.poll host.recording).1.note
    (.returned (place.poll host.recording).2))
  cases resolved : place.upload.resolved with
  | true =>
      rw [Place.poll_of_resolved host.recording resolved]
      exact keeps.again kept resolved
  | false =>
      obtain ⟨middle, still, unresolved, last⟩ :=
        Place.poll_keeps During keeps.step resolved
          (keeps.activate kept resolved)
      exact keeps.returns still unresolved last

theorem record (keeps : Keeps host Kept During) (kept : Kept place)
    (move : Move World Content) : Kept (place.record host move) := by
  cases move with
  | poll => exact keeps.poll kept
  | pause => exact keeps.pause kept
  | wake number => exact keeps.wake number kept
  | change change => exact keeps.change change kept
  | feed feed => exact keeps.feed feed kept

/-- What every move keeps is kept by every run. -/
theorem replay (keeps : Keeps host Kept During) (kept : Kept place)
    (moves : List (Move World Content)) :
    Kept (place.replay host moves) := by
  induction moves generalizing place with
  | nil => exact kept
  | cons move moves ih => exact ih (keeps.record kept move)

end Keeps

/--
What makes a property of recorded uploads last in runs that change their
surroundings only as it allows.
-/
structure Lasts (host : Host World Content Phase)
    (allows : World → World → Prop)
    (Kept : Place (Recorded World) Content (Marked Phase) → Prop) :
    Prop where
  activate : ∀ {place}, Kept place → Kept place.activate
  step : ∀ {place later outcome}, Kept place →
    place.upload.resolved = false →
    Step host.recording place later outcome → Kept later
  note : ∀ {place} {event : Event}, Kept place → event.isFact = false →
    Kept (place.note event)
  heard : ∀ {place upload}, Kept place →
    Upload.Heard place.upload upload → Kept (place.become upload)
  change : ∀ {place} {change : World → World}, Kept place →
    allows place.world.world (change place.world.world) →
    Kept (place.change fun recorded =>
      { recorded with world := change recorded.world })
  feed : ∀ {place} (feed : Content → Content), Kept place →
    Kept (place.feed feed)

namespace Lasts

variable {host : Host World Content Phase}
  {allows : World → World → Prop}
  {Kept : Place (Recorded World) Content (Marked Phase) → Prop}
  {place later : Place (Recorded World) Content (Marked Phase)}

/-- It lasts up to the last step of a poll. -/
theorem poll_keeps (lasts : Lasts host allows Kept) (kept : Kept place)
    (unresolved : place.upload.resolved = false) :
    ∃ middle, Kept middle ∧ middle.upload.resolved = false ∧
      Step host.recording middle (place.poll host.recording).1
        (some (place.poll host.recording).2) :=
  Place.poll_keeps Kept
    (fun kept unresolved step => lasts.step kept unresolved step)
    unresolved (lasts.activate kept)

theorem poll (lasts : Lasts host allows Kept) (kept : Kept place) :
    Kept (place.poll host.recording).1 := by
  cases resolved : place.upload.resolved with
  | true =>
      rw [Place.poll_of_resolved host.recording resolved]
      exact kept
  | false =>
      obtain ⟨middle, still, unresolved, last⟩ :=
        lasts.poll_keeps kept resolved
      exact lasts.step still unresolved last

theorem record (lasts : Lasts host allows Kept) (kept : Kept place)
    {move : Move World Content}
    (allowed : ∀ {change}, move = .change change →
      allows place.world.world (change place.world.world)) :
    Kept (place.record host move) := by
  cases move with
  | poll => exact lasts.note (lasts.poll kept) rfl
  | pause =>
      have paused : Kept place.pause :=
        lasts.heard kept (Upload.heard_pause _)
      exact lasts.note paused rfl
  | wake number =>
      exact lasts.heard kept (Upload.heard_signal _ (.wakePart number))
  | change change => exact lasts.change kept (allowed rfl)
  | feed feed => exact lasts.feed feed kept

/-- What lasts in every move lasts in every run. -/
theorem replay (lasts : Lasts host allows Kept) (kept : Kept place)
    (moves : List (Move World Content))
    (allowed : ∀ change, .change change ∈ moves →
      ∀ world, allows world (change world)) :
    Kept (place.replay host moves) := by
  induction moves generalizing place with
  | nil => exact kept
  | cons move moves ih =>
      refine ih (lasts.record kept ?_) fun change later =>
        allowed change (List.mem_cons_of_mem move later)
      rintro change rfl
      exact allowed change List.mem_cons_self _

end Lasts

/-! ## The session and its history -/

/-- A part request that is woken leaves the session as it is. -/
theorem Place.session_wake (place : Place World Content Phase)
    (number : PartNumber) :
    (place.wake number).upload.session = place.upload.session :=
  Upload.session_wake place.upload number

/--
What makes a property of a session and its history last through a step, if of
the session only the target, the plan and the verdict count.
-/
structure Tells (Known : Session → History → Prop) : Prop where
  note : ∀ {session history event}, Known session history →
    event.checkpoint? = none →
    Known session (history ++ [⟨session, event⟩])
  pause : ∀ {session : Session} {history}, Known session history →
    Known session.pause.1
      (history ++ [⟨session.pause.1, .paused session.pause.2⟩])
  congr : ∀ {session later : Session} {history}, Known session history →
    later.target = session.target → later.plan = session.plan →
    later.verdict = session.verdict → Known later history
  fail : ∀ {session : Session} {history}, Known session history →
    session.verdict = .running →
    Known { session with verdict := .failed } history

namespace Tells

variable {Known : Session → History → Prop}
  {host : Host World Content Phase}
  {place later : Place (Recorded World) Content (Marked Phase)}

theorem hears (tells : Tells Known) : Hears Known where
  note known silent _ := tells.note known silent
  pause known := tells.pause known

/-- A reply may be heard, whatever it is to. -/
theorem witness {Outcome : Type} (tells : Tells Known)
    {session : Session} {recorded : Recorded World}
    (known : Known session recorded.history) {event : Event}
    {reply : Reply World Outcome} {result : Option Event}
    (silent : event.checkpoint? = none) (unlanded : event.lands = false)
    (answered : ∀ answer, result = some answer →
      answer.checkpoint? = none) :
    Known (session.hear reply.signals)
      (recorded.witness session event reply result).history := by
  obtain ⟨history, heard, same⟩ :=
    tells.hears.witness known event reply result silent unlanded
  rw [same]
  cases result with
  | none => exact (List.append_nil history).symm ▸ heard
  | some answer => exact tells.note heard (answered answer rfl)

theorem hear_poll (tells : Tells Known)
    (known : Known place.upload.session place.world.history)
    (request : Request) (marked : Marked Phase) :
    let heard := place.hear
      (host.recording.poll place.world place.upload.session request marked)
    Known heard.upload.session heard.world.history := by
  intro heard
  rw [show heard.upload.session = _ from Upload.session_hear _ _]
  apply tells.witness known (marked.checkpoint?_event request)
    (marked.lands_event request)
  intro answer seen
  obtain ⟨_, _, rfl⟩ :=
    Response.eq_of_mem_event (Option.mem_toList.mpr seen)
  rfl

theorem heardPart (tells : Tells Known)
    (known : Known place.upload.session place.world.history)
    (flight : Flight (Marked Phase))
    (queued : List (Flight (Marked Phase))) :
    let after := place.heardPart host.recording flight queued
    Known after.upload.session after.world.history := by
  let polling := place.become
    (place.upload.withPool (place.upload.pool.polling flight queued))
  have known : Known polling.upload.session polling.world.history := known
  exact tells.hear_poll known _ _

theorem failed (tells : Tells Known) (host : Host World Content Phase)
    {upload : Upload Content Phase} {history : History}
    (known : Known upload.session history) (failure : Failure) :
    Known (upload.fail host failure).1.session history := by
  rw [Upload.fail]
  cases verdict : upload.session.verdict with
  | paused => exact known
  | failed => exact known
  | running => exact tells.fail known verdict

/-- What is known of a session and its history is kept by every step. -/
theorem step {outcome : Option Outcome} (tells : Tells Known)
    (known : Known place.upload.session place.world.history)
    (step : Step host.recording place later outcome) :
    Known later.upload.session later.world.history := by
  cases step with
  | withdrawn => exact tells.congr known rfl rfl rfl
  | waiting => exact tells.heardPart known _ _
  | recalled => exact tells.congr (tells.heardPart known _ _) rfl rfl rfl
  | received => exact tells.congr (tells.heardPart known _ _) rfl rfl rfl
  | @refused flight queued _ _ opened front wanted answer left =>
      subst left
      refine tells.failed host.recording ?_ _
      exact tells.congr (tells.heardPart known flight queued) rfl rfl rfl
  | resting => exact known
  | starved may polled =>
      have cut := tells.hears.polled known polled
      exact cut
  | cut may polled =>
      have cut := tells.hears.polled known polled
      change Known (Upload.sendPart _ _ _).session _
      rw [Upload.sendPart]
      dsimp only
      split <;> exact tells.congr cut rfl rfl rfl
  | spoiled may polled =>
      have cut := tells.hears.polled known polled
      refine tells.failed host.recording ?_ _
      exact cut
  | exhausted may polled =>
      have cut := tells.hears.polled known polled
      exact tells.congr cut rfl rfl rfl
  | snapped may polled =>
      have cut := tells.hears.polled known polled
      exact cut
  | closes => exact tells.congr known rfl rfl rfl
  | stumbles => exact tells.congr known rfl rfl rfl
  | parks => exact known
  | unclosed => exact known
  | closing => exact tells.hear_poll known _ _
  | reopened => exact tells.hear_poll known _ _
  | rejected unaborted closed wanted answer left =>
      subst left
      refine tells.failed host.recording ?_ _
      exact tells.hear_poll known _ _
  | completes => exact tells.congr (tells.hear_poll known _ _) rfl rfl rfl
  | collapsed => exact tells.congr (tells.hear_poll known _ _) rfl rfl rfl
  | aborting => exact tells.hear_poll known _ _
  | aborted => exact tells.hear_poll known _ _

end Tells

/-! ## What may happen at a moment -/

/-- Holds of an event at which neither a request is polled nor a poll ends. -/
def Event.isHeard : Event → Bool
  | .sent _ => false
  | .asked _ => false
  | .returned _ => false
  | _ => true

namespace History

variable {host : Host World Content Phase}
  {allowed : History → Moment → Prop}
  {place later : Place (Recorded World) Content (Marked Phase)}

/-- A step may be taken if the requests that it may poll may be polled. -/
theorem Always.step {outcome : Option Outcome}
    (always : Always allowed place.world.history)
    (heard : ∀ before session event, event.isHeard = true →
      allowed before ⟨session, event⟩)
    (polls : ∀ request marked, place.upload.Polls request marked →
      allowed place.world.history
        ⟨place.upload.session, marked.event request⟩)
    (step : Step host.recording place later outcome) :
    Always allowed later.world.history := by
  refine step.keeps_world (fun recorded => Always allowed recorded.history)
    always ?pulls ?polls
  case pulls =>
    intro recorded session content always
    refine always_witness always (heard _ _ _ rfl)
      (fun before session answer => heard _ _ _ rfl) ?_
    intro before session answer given
    rcases Pull.eq_of_mem_event (Option.mem_toList.mpr given) with
      rfl | ⟨buffer, rfl⟩
    · exact heard _ _ _ rfl
    · exact heard _ _ _ rfl
  case polls =>
    intro request marked polled
    refine always_witness always (polls request marked polled)
      (fun before session answer => heard _ _ _ rfl) ?_
    intro before session answer answered
    obtain ⟨_, _, rfl⟩ :=
      Response.eq_of_mem_event (Option.mem_toList.mpr answered)
    exact heard _ _ _ rfl

end History

end Multipart
