import Multipart.Proofs.Upload.Run

/-!
# What a step asks of its host

A step of a poll asks for one request at most, or it asks the source for
buffers; it does nothing else to the surroundings.  So what is known of the
surroundings lasts through every step if it lasts through the replies to
these, which is the main statement, `Step.keeps_asked`.
-/

namespace Multipart

variable {World Content Phase : Type}

/-- The requests that the next step of a poll may poll, as they stand. -/
inductive Upload.Polls (upload : Upload Content Phase) :
    Request → Phase → Prop where
  | part {flight : Flight Phase} (opened : upload.IsOpen)
      (flying : flight ∈ upload.pool.flights)
      (wanted : flight.cancelled = false) :
      Polls upload
        (.part upload.session.target flight.number flight.body)
        flight.phase
  | closing {closing : Closing Phase} (unaborted : upload.abort = none)
      (closed : upload.closing = some closing)
      (wanted : closing.cancelled = false) :
      Polls upload (.complete upload.session.target closing.receipts)
        closing.phase
  | abort {phase : Phase} (begun : upload.abort = some phase) :
      Polls upload (.abort upload.session.target) phase

/-- An upload does not ask for listings. -/
theorem Upload.Polls.unlisted {upload : Upload Content Phase}
    {request : Request} {phase : Phase}
    (polls : upload.Polls request phase) (target : Target) :
    request ≠ .list target := by
  rintro rfl
  cases polls

variable {host : Host World Content Phase}
  {place later : Place World Content Phase}

/--
What lasts whenever the source is asked lasts while parts are cut.  The
upload may be paused meanwhile, and its requests may be woken.
-/
theorem Cutter.polled_keeps_asked (Kept : World → Prop)
    {cutter : Cutter Content} {outcome : Cutter.Outcome}
    (polled :
      place.upload.cutter.poll host.source place =
        (later, cutter, outcome))
    (kept : Kept place.world)
    (pulls : ∀ {world upload} content,
      Upload.Heard place.upload upload → Kept world →
        Kept (host.pull world upload.session content).world) :
    Kept later.world := by
  let keeps (before after : Place World Content Phase) :=
    Upload.Heard place.upload before.upload → Kept before.world →
      Upload.Heard place.upload after.upload ∧ Kept after.world
  have lasts :
      keeps place (place.upload.cutter.poll host.source place).1 := by
    refine Cutter.poll_world (R := keeps)
      (fun _ heard kept => ⟨heard, kept⟩)
      (fun first second heard kept =>
        (first heard kept).elim second) ?_ place place.upload.cutter
    intro before content heard kept
    exact ⟨heard.trans (before.heard _), pulls content heard kept⟩
  rw [polled] at lasts
  exact (lasts (Upload.Heard.refl _) kept).2

/-- What lasts whenever the source is asked lasts while parts are cut. -/
theorem Cutter.polled_keeps_world (Kept : World → Prop)
    {cutter : Cutter Content} {outcome : Cutter.Outcome}
    (polled :
      place.upload.cutter.poll host.source place =
        (later, cutter, outcome))
    (kept : Kept place.world)
    (pulls : ∀ {world} session content,
      Kept world → Kept (host.pull world session content).world) :
    Kept later.world :=
  polled_keeps_asked Kept polled kept fun content _ kept =>
    pulls _ content kept

/--
What lasts through all that a step may ask lasts through the step.  The
source is asked only while the next part may be cut.
-/
theorem Step.keeps_asked (Kept : World → Prop)
    {outcome : Option Outcome} (step : Step host place later outcome)
    (kept : Kept place.world)
    (pulls : ∀ {world upload} content, place.upload.MayCut →
      Upload.Heard place.upload upload → Kept world →
        Kept (host.pull world upload.session content).world)
    (polls : ∀ {request phase}, place.upload.Polls request phase →
      Kept (host.poll place.world place.upload.session request
        phase).world) :
    Kept later.world := by
  have part {flight : Flight Phase} {queued : List (Flight Phase)}
      (opened : place.upload.IsOpen)
      (front : place.upload.pool.queued = flight :: queued)
      (wanted : flight.cancelled = false) :
      Kept (place.heardPart host flight queued).world :=
    polls (.part opened (Pool.mem_flights_of_front front) wanted)
  have cut {after : Place World Content Phase}
      {cutter : Cutter Content} {outcome : Cutter.Outcome}
      (may : place.upload.MayCut)
      (polled :
        place.upload.cutter.poll host.source place =
          (after, cutter, outcome)) :
      Kept after.world :=
    Cutter.polled_keeps_asked Kept polled kept fun content heard kept =>
      pulls content may heard kept
  have closes {closing : Closing Phase}
      (unaborted : place.upload.abort = none)
      (closed : place.upload.closing = some closing)
      (wanted : closing.cancelled = false) :
      Kept (place.hear (host.askClosing place closing)).world :=
    polls (.closing unaborted closed wanted)
  have aborts {phase : Phase} (begun : place.upload.abort = some phase) :
      Kept (place.hear (host.askAbort place phase)).world :=
    polls (.abort begun)
  cases step with
  | withdrawn => exact kept
  | waiting opened front wanted => exact part opened front wanted
  | recalled opened front wanted => exact part opened front wanted
  | received opened front wanted => exact part opened front wanted
  | refused opened front wanted => exact part opened front wanted
  | resting => exact kept
  | starved may polled =>
      rw [Place.world_become]
      exact cut may polled
  | cut may polled =>
      rw [Place.world_become]
      exact cut may polled
  | spoiled may polled =>
      rw [Place.world_become]
      exact cut may polled
  | exhausted may polled =>
      rw [Place.world_become]
      exact cut may polled
  | snapped may polled =>
      rw [Place.world_become]
      exact cut may polled
  | closes => exact kept
  | stumbles => exact kept
  | parks => exact kept
  | unclosed => exact kept
  | closing unaborted closed wanted => exact closes unaborted closed wanted
  | reopened unaborted closed wanted => exact closes unaborted closed wanted
  | rejected unaborted closed wanted => exact closes unaborted closed wanted
  | completes unaborted closed wanted =>
      exact closes unaborted closed wanted
  | collapsed unaborted closed wanted =>
      exact closes unaborted closed wanted
  | aborting begun => exact aborts begun
  | aborted begun => exact aborts begun

/-- What lasts through all that a host is asked lasts through the step. -/
theorem Step.keeps_world (Kept : World → Prop)
    {outcome : Option Outcome} (step : Step host place later outcome)
    (kept : Kept place.world)
    (pulls : ∀ {world} session content,
      Kept world → Kept (host.pull world session content).world)
    (polls : ∀ {request phase}, place.upload.Polls request phase →
      Kept (host.poll place.world place.upload.session request
        phase).world) :
    Kept later.world :=
  step.keeps_asked Kept kept (fun content _ _ kept => pulls _ content kept)
    polls

end Multipart
