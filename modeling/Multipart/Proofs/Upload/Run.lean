import Multipart.Proofs.Cutter.Looking
import Multipart.Proofs.Upload.Steps

/-!
# Runs of an upload

An upload is polled, and between two polls anything may come about: a handle
pauses it, a request of it is woken, its surroundings change, its source gets
more to give.  A run is any sequence of such moves.  What every step of a
poll keeps and every other move keeps is kept by every run, and that is how
all that follows is proved.
-/

namespace Multipart

variable {World Content Phase : Type}

/-- What a source that has all its bytes gives: one after another. -/
def Pull.bytewise : (content : Bytes) → Pull List.length content
  | [] => .ended []
  | first :: rest =>
    .item (.ok [first]) rest (Nat.lt_succ_self rest.length)

/-- What may be done with an upload and around it. -/
inductive Move (World Content : Type) where
  /-- The upload is polled. -/
  | poll
  /-- A handle of the upload is asked for a pause. -/
  | pause
  /-- The task of a part request is woken. -/
  | wake (number : PartNumber)
  /-- The surroundings change. -/
  | change (change : World → World)
  /-- The source of the content changes. -/
  | feed (feed : Content → Content)

namespace Place

/-- Poll the upload at a place. -/
def poll (host : Host World Content Phase)
    (place : Place World Content Phase) :
    Place World Content Phase × Outcome :=
  let polled := place.upload.poll host place.world
  (polled.1.place, polled.2)

/-- Wake the task of a part request. -/
def wake (place : Place World Content Phase) (number : PartNumber) :
    Place World Content Phase :=
  place.become (place.upload.signal (.wakePart number))

/-- Ask a handle of the upload for a pause. -/
def pause (place : Place World Content Phase) :
    Place World Content Phase :=
  place.become place.upload.pause.1

/-- Change the surroundings. -/
def change (place : Place World Content Phase) (change : World → World) :
    Place World Content Phase :=
  { place with world := change place.world }

/-- Change the source of the content. -/
def feed (place : Place World Content Phase)
    (feed : Content → Content) : Place World Content Phase :=
  let cutter :=
    { place.upload.cutter with content := feed place.upload.cutter.content }
  place.become { place.upload with cutter }

/-- Make one move. -/
def move (host : Host World Content Phase)
    (place : Place World Content Phase) :
    Move World Content → Place World Content Phase
  | .poll => (place.poll host).1
  | .pause => place.pause
  | .wake number => place.wake number
  | .change change => place.change change
  | .feed feed => place.feed feed

/-- Make moves one after another. -/
def play (host : Host World Content Phase)
    (place : Place World Content Phase)
    (moves : List (Move World Content)) : Place World Content Phase :=
  moves.foldl (move host) place

/-! ## What a run keeps -/

/-- An upload that has resolved is left as it is when it is polled. -/
theorem poll_of_resolved (host : Host World Content Phase)
    {place : Place World Content Phase}
    (resolved : place.upload.resolved = true) :
    place.poll host = (place, .faulted .alreadyResolved) := by
  unfold poll Upload.poll Turn.begin
  dsimp only
  rw [resolved]
  rfl

end Place

namespace Upload

/-- An upload resolves when it fails, unless it has to be aborted first. -/
theorem resolved_fail (host : Host World Content Phase)
    {upload : Upload Content Phase} {failure : Failure}
    (unresolved : upload.resolved = false)
    (goesOn : (upload.fail host failure).2 = none) :
    (upload.fail host failure).1.resolved = false := by
  rw [fail] at goesOn ⊢
  cases verdict : upload.session.verdict with
  | running => exact unresolved
  | paused => simp [verdict] at goesOn
  | failed => simp [verdict] at goesOn

theorem cutter_fail (host : Host World Content Phase)
    (upload : Upload Content Phase) (failure : Failure) :
    (upload.fail host failure).1.cutter = upload.cutter := by
  rw [fail]
  cases upload.session.verdict <;> rfl

theorem resolved_sendPart (host : Host World Content Phase)
    (upload : Upload Content Phase) (body : Bytes) :
    (upload.sendPart host body).resolved = upload.resolved := by
  rw [sendPart]
  dsimp only
  split <;> rfl

end Upload

/-- What polling the cutter of an upload comes to. -/
structure Cutter.Polled (place after : Place World Content Phase)
    (cutter : Cutter Content) (outcome : Cutter.Outcome) : Prop where
  heard : Upload.Heard place.upload after.upload
  follows : cutter.plan = after.upload.cutter.plan
  emitted :
    cutter.emitted = after.upload.cutter.emitted + outcome.parts
  goesOn :
    place.upload.cutter.finished = false → GoesOn cutter outcome

theorem Cutter.polled (host : Host World Content Phase)
    {place after : Place World Content Phase}
    {cutter : Cutter Content} {outcome : Cutter.Outcome}
    (polled :
      place.upload.cutter.poll host.source place =
        (after, cutter, outcome)) :
    Cutter.Polled place after cutter outcome := by
  have heard :
      Upload.Heard place.upload
        (place.upload.cutter.poll host.source place).1.upload :=
    Cutter.poll_world
      (R := fun before after => Upload.Heard before.upload after.upload)
      (fun place => Upload.Heard.refl place.upload)
      Upload.Heard.trans
      (fun _ _ => Upload.heard_hear _ _)
      place place.upload.cutter
  have kept := poll_cutter host.source place place.upload.cutter
  have goesOn := goesOn_poll host.source place place.upload.cutter
  rw [polled] at heard kept goesOn
  exact
    { heard
      follows := by rw [heard.cutter, kept.1]
      emitted := by rw [heard.cutter, kept.2]
      goesOn }

/-- Polling a request leaves an upload as it was, but for what it hears. -/
theorem Upload.heard_heardPart (host : Host World Content Phase)
    {place : Place World Content Phase} {flight : Flight Phase}
    {queued : List (Flight Phase)}
    (front : place.upload.pool.queued = flight :: queued) :
    Upload.Heard place.upload
      (place.heardPart host flight queued).upload :=
  (Upload.Heard.moved _ (Pool.flights_polling front)).trans
    (Upload.heard_hear _ _)

/-- An upload that goes on has not resolved. -/
theorem Step.unresolved {host : Host World Content Phase}
    {place later : Place World Content Phase} {outcome : Option Outcome}
    (step : Step host place later outcome) (goesOn : outcome = none)
    (unresolved : place.upload.resolved = false) :
    later.upload.resolved = false := by
  have heard {Outcome : Type} (pool : Pool Phase)
      (reply : Reply World Outcome) :
      ((place.upload.withPool pool).hear reply.signals).resolved =
        false :=
    (Upload.heard_hear _ _).resolved.trans unresolved
  cases step with
  | withdrawn => exact unresolved
  | waiting => exact heard _ _
  | recalled => exact heard _ _
  | received => exact heard _ _
  | refused opened front wanted answer left =>
      subst left
      exact Upload.resolved_fail host (heard _ _) goesOn
  | cut may polled =>
      exact (Upload.resolved_sendPart host _ _).trans
        ((Cutter.polled host polled).heard.resolved.trans unresolved)
  | spoiled may polled =>
      exact Upload.resolved_fail host
        ((Cutter.polled host polled).heard.resolved.trans unresolved)
        goesOn
  | exhausted may polled =>
      exact (Cutter.polled host polled).heard.resolved.trans unresolved
  | closes => exact unresolved
  | rejected unaborted closed wanted answer left =>
      subst left
      exact Upload.resolved_fail host
        ((Upload.heard_hear _ _).resolved.trans unresolved) goesOn
  | _ => cases goesOn

/-- The limit of an upload, and whether it has completed. -/
def Upload.fixture (upload : Upload Content Phase) : Option Nat × Bool :=
  (upload.capacity, upload.session.completed)

theorem Upload.Heard.fixture {upload later : Upload Content Phase}
    (heard : Heard upload later) : later.fixture = upload.fixture :=
  Prod.ext heard.capacity heard.completed

/-- A step leaves both as they are, unless it completes the upload. -/
theorem Step.fixture {host : Host World Content Phase}
    {place later : Place World Content Phase} {outcome : Option Outcome}
    (step : Step host place later outcome)
    (losing : ∀ completion,
      outcome ≠ some (.resolved (.ok completion))) :
    later.upload.fixture = place.upload.fixture := by
  have heard {Outcome : Type} (pool : Pool Phase)
      (reply : Reply World Outcome) :
      ((place.upload.withPool pool).hear reply.signals).fixture =
        place.upload.fixture :=
    (Upload.heard_hear _ _).fixture
  have failed (upload : Upload Content Phase) (failure : Failure) :
      (upload.fail host failure).1.fixture = upload.fixture := by
    rw [Upload.fail]
    cases upload.session.verdict <;> rfl
  have cut {after : Place World Content Phase}
      {cutter : Cutter Content} {outcome : Cutter.Outcome}
      (polled :
        place.upload.cutter.poll host.source place =
          (after, cutter, outcome)) :
      after.upload.fixture = place.upload.fixture :=
    (Cutter.polled host polled).heard.fixture
  cases step with
  | withdrawn => rfl
  | waiting => exact heard _ _
  | recalled => exact heard _ _
  | received => exact heard _ _
  | refused opened front wanted answer left =>
      subst left
      exact (failed _ _).trans (heard _ _)
  | resting => rfl
  | starved may polled =>
      have same := cut polled
      exact same
  | cut may polled =>
      rw [← cut polled]
      change (Upload.sendPart _ _ _).fixture = _
      rw [Upload.sendPart]
      dsimp only
      split <;> rfl
  | spoiled may polled => exact (failed _ _).trans (cut polled)
  | exhausted may polled =>
      have same := cut polled
      exact same
  | snapped may polled =>
      have same := cut polled
      exact same
  | closes => rfl
  | stumbles => rfl
  | parks => rfl
  | unclosed => rfl
  | closing => exact heard place.upload.pool _
  | reopened => exact heard place.upload.pool _
  | rejected unaborted closed wanted answer left =>
      subst left
      exact (failed _ _).trans (heard place.upload.pool _)
  | completes => exact absurd rfl (losing _)
  | collapsed => exact heard place.upload.pool _
  | aborting => exact heard place.upload.pool _
  | aborted => exact heard place.upload.pool _

/-- An upload that fails goes on, or resolves with a failure. -/
theorem Upload.outcome_fail (host : Host World Content Phase)
    {upload : Upload Content Phase} {failure : Failure} {outcome : Outcome}
    (resolves : some outcome = (upload.fail host failure).2) :
    ∃ ending, outcome = .resolved (.error ending) := by
  rw [fail] at resolves
  cases verdict : upload.session.verdict with
  | running =>
      rw [verdict] at resolves
      cases resolves
  | paused =>
      rw [verdict] at resolves
      exact ⟨_, Option.some.inj resolves⟩
  | failed =>
      rw [verdict] at resolves
      exact ⟨_, Option.some.inj resolves⟩

/-- An upload that resolves when it fails has been decided. -/
theorem Upload.judged_fail (host : Host World Content Phase)
    {upload : Upload Content Phase} {failure : Failure} {outcome : Outcome}
    (resolves : some outcome = (upload.fail host failure).2) :
    (upload.fail host failure).1.session.verdict ≠ .running := by
  rw [fail] at resolves ⊢
  cases verdict : upload.session.verdict with
  | running =>
      rw [verdict] at resolves
      cases resolves
  | paused => exact fun running => by cases verdict.symm.trans running
  | failed => exact fun running => by cases verdict.symm.trans running

/-- All that an upload does which is aborted is to poll its abort. -/
theorem Step.of_begun {host : Host World Content Phase}
    {place later : Place World Content Phase} {outcome : Option Outcome}
    {phase : Phase} (begun : place.upload.abort = some phase)
    (step : Step host place later outcome) :
    let heard := place.hear (host.askAbort place phase)
    (∃ next, (host.askAbort place phase).outcome = .waiting next ∧
        later = heard.become { heard.upload with abort := some next } ∧
        outcome = some .pending) ∨
      ∃ answer, (host.askAbort place phase).outcome = .finished answer ∧
        later =
          heard.become
            { heard.upload with abort := none, failure := none }.resolve ∧
        outcome =
          some (.resolved (.error
            (heard.upload.failure.getD
              heard.upload.session.pausedFailure))) := by
  intro heard
  cases step with
  | aborting again answer =>
      obtain rfl := Option.some.inj (begun.symm.trans again)
      exact .inl ⟨_, answer, rfl, rfl⟩
  | aborted again answered =>
      obtain rfl := Option.some.inj (begun.symm.trans again)
      exact .inr ⟨_, answered, rfl, rfl⟩
  | withdrawn opened | waiting opened | recalled opened | received opened
  | refused opened | resting opened | closes opened | stumbles opened
  | parks opened =>
      cases begun.symm.trans opened.unaborted
  | starved may | cut may | spoiled may | exhausted may
  | snapped may =>
      cases begun.symm.trans may.unaborted
  | unclosed unaborted | closing unaborted | reopened unaborted
  | rejected unaborted | completes unaborted | collapsed unaborted =>
      cases begun.symm.trans unaborted

/-- How the request that completes an upload succeeds. -/
structure Step.Completes (host : Host World Content Phase)
    (place later : Place World Content Phase) (closing : Closing Phase)
    (completion : Completion) : Prop where
  unaborted : place.upload.abort = none
  closed : place.upload.closing = some closing
  wanted : closing.cancelled = false
  answer :
    (host.askClosing place closing).outcome =
      .finished (.ok completion)
  reached :
    later =
      (place.hear (host.askClosing place closing)).become
        (place.hear
          (host.askClosing place closing)).upload.complete.resolve

/-- Only the success of that request lets a poll resolve with an object. -/
theorem Step.completes_of_ok {host : Host World Content Phase}
    {place later : Place World Content Phase} {completion : Completion}
    (step : Step host place later (some (.resolved (.ok completion)))) :
    ∃ closing, Step.Completes host place later closing completion := by
  generalize last : some (Outcome.resolved (.ok completion)) = final
    at step
  have losing {upload : Upload Content Phase} {failure : Failure}
      (same : some (Outcome.resolved (.ok completion)) =
        (upload.fail host failure).2) : False := by
    rcases Upload.outcome_fail host same with ⟨ending, other⟩
    cases other
  cases step with
  | refused => exact (losing last).elim
  | spoiled => exact (losing last).elim
  | rejected => exact (losing last).elim
  | @completes closing other unaborted closed wanted answer =>
      obtain rfl : completion = other := by
        cases last
        rfl
      exact ⟨closing, unaborted, closed, wanted, answer, rfl⟩
  | _ => cases last

/-- Every step leaves the limit of an upload as it is. -/
theorem Step.capacity {host : Host World Content Phase}
    {place later : Place World Content Phase} {outcome : Option Outcome}
    (step : Step host place later outcome) :
    later.upload.capacity = place.upload.capacity := by
  by_cases ok : ∃ completion, outcome = some (.resolved (.ok completion))
  · obtain ⟨completion, rfl⟩ := ok
    obtain ⟨closing, done⟩ := step.completes_of_ok
    rw [done.reached]
    exact (Upload.heard_hear _ _).capacity
  · exact congrArg Prod.fst (step.fixture fun completion same =>
      ok ⟨completion, same⟩)

namespace Place

/--
A poll ends with a step from a place that keeps whatever every step before
the last one keeps.
-/
theorem poll_keeps {host : Host World Content Phase}
    (Kept : Place World Content Phase → Prop)
    (keeps : ∀ {before after},
      Kept before → before.upload.resolved = false →
        Step host before after none → Kept after)
    {place : Place World Content Phase}
    (unresolved : place.upload.resolved = false)
    (kept : Kept place.activate) :
    ∃ middle, Kept middle ∧ middle.upload.resolved = false ∧
      Step host middle (place.poll host).1 (some (place.poll host).2) := by
  rcases steps_poll host place.world unresolved with ⟨middle, steps, last⟩
  suffices Kept middle ∧ middle.upload.resolved = false from
    ⟨middle, this.1, this.2, last⟩
  clear last
  induction steps with
  | refl => exact ⟨kept, unresolved⟩
  | tail before step ih =>
      exact ⟨keeps ih.1 ih.2 step, step.unresolved rfl ih.2⟩

end Place

end Multipart
