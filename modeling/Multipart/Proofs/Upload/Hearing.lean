import Mathlib.Data.List.Perm.Basic
import Multipart.Upload.Turn

/-!
# What an upload hears

While a host is polled, handles may pause the upload and tasks may be woken.
Of all this an upload keeps little: either its requests have only changed
places, or it has been paused and every request of it is cancelled.  The main
statement, `Upload.heard_hear`, says just that, and what a poll keeps is
derived from it without another look at single signals.
-/

namespace Multipart

/-! ## The requests of a pool, whatever their places -/

namespace Flight

variable {Phase : Type}

/-- The request once it was cancelled. -/
def cancel (flight : Flight Phase) : Flight Phase :=
  { flight with cancelled := true }

end Flight

namespace Pool

variable {Phase : Type}

/-- A woken request changes its place only. -/
theorem flights_wake (pool : Pool Phase) (number : PartNumber) :
    (pool.wake number).flights.Perm pool.flights := by
  have parts :
      (pool.idle.filter (fun flight => flight.number = number) ++
        pool.idle.filter (fun flight => ¬ flight.number = number)).Perm
          pool.idle := by
    simpa using List.filter_append_perm
      (fun flight => decide (flight.number = number)) pool.idle
  simp only [wake, flights, List.partition_eq_filter_filter,
    List.append_assoc]
  apply List.Perm.append_left pool.queued
  simpa [Function.comp_def] using parts

@[simp]
theorem flights_cancelAll (pool : Pool Phase) :
    pool.cancelAll.flights = pool.flights.map Flight.cancel := by
  simp only [cancelAll, flights, List.append_nil]
  rfl

theorem flights_push (pool : Pool Phase) (flight : Flight Phase) :
    (pool.push flight).flights.Perm (flight :: pool.flights) := by
  simp only [push, flights, List.append_assoc, List.cons_append,
    List.nil_append]
  exact List.perm_middle

@[simp]
theorem flights_remove (pool : Pool Phase) (number : PartNumber) :
    (pool.remove number).flights =
      pool.flights.filter fun flight => flight.number ≠ number := by
  simp [remove, flights]

/-- The request with the client's state of it replaced, if it is the one. -/
def setFlight (number : PartNumber) (phase : Phase)
    (flight : Flight Phase) : Flight Phase :=
  if flight.number = number then { flight with phase } else flight

@[simp]
theorem flights_setPhase
    (pool : Pool Phase) (number : PartNumber) (phase : Phase) :
    (pool.setPhase number phase).flights =
      pool.flights.map (setFlight number phase) := by
  simp only [setPhase, flights, List.map_append]
  rfl

@[simp]
theorem number_setFlight
    (number : PartNumber) (phase : Phase) (flight : Flight Phase) :
    (setFlight number phase flight).number = flight.number := by
  rw [setFlight]
  split <;> rfl

@[simp]
theorem body_setFlight
    (number : PartNumber) (phase : Phase) (flight : Flight Phase) :
    (setFlight number phase flight).body = flight.body := by
  rw [setFlight]
  split <;> rfl

@[simp]
theorem cancelled_setFlight
    (number : PartNumber) (phase : Phase) (flight : Flight Phase) :
    (setFlight number phase flight).cancelled = flight.cancelled := by
  rw [setFlight]
  split <;> rfl

/-- The pool while the request at its front is polled. -/
def polling (pool : Pool Phase) (flight : Flight Phase)
    (queued : List (Flight Phase)) : Pool Phase :=
  { queued, idle := pool.idle ++ [flight] }

/-- The request that is polled stands at the end meanwhile. -/
theorem flights_polling
    {pool : Pool Phase} {flight : Flight Phase}
    {queued : List (Flight Phase)}
    (front : pool.queued = flight :: queued) :
    (pool.polling flight queued).flights.Perm pool.flights := by
  simp only [polling, flights, front]
  rw [← List.append_assoc]
  exact List.perm_append_singleton flight (queued ++ pool.idle)

theorem mem_flights_of_front
    {pool : Pool Phase} {flight : Flight Phase}
    {queued : List (Flight Phase)}
    (front : pool.queued = flight :: queued) :
    flight ∈ pool.flights := by
  simp [flights, front]

end Pool

/-! ## Signals -/

namespace Upload

variable {Content Phase : Type}

/-- The upload after one signal. -/
def signal (upload : Upload Content Phase) : Signal → Upload Content Phase
  | .pause => upload.pause.1
  | .wakePart number =>
    if upload.pool.isIdle number then
      { upload with pool := upload.pool.wake number }
    else
      upload
  | .wakeDriver => upload
  | .note _ => upload

/-- The upload after the signals of a poll. -/
def hear (upload : Upload Content Phase) (signals : List Signal) :
    Upload Content Phase :=
  signals.foldl signal upload

/-- The upload with its requests in other places. -/
def withPool (upload : Upload Content Phase) (pool : Pool Phase) :
    Upload Content Phase :=
  { upload with pool }

/-- The upload once it was paused, with its requests in other places. -/
def paused (upload : Upload Content Phase) (pool : Pool Phase) :
    Upload Content Phase :=
  { upload with
    session := { upload.session with verdict := .paused }
    pool
    closing := upload.closing.map ({ · with cancelled := true }) }

/-- What an upload may become while a host is polled. -/
inductive Heard (upload : Upload Content Phase) :
    Upload Content Phase → Prop where
  /-- Requests have changed their places. -/
  | moved (pool : Pool Phase)
      (same : pool.flights.Perm upload.pool.flights) :
      Heard upload (upload.withPool pool)
  /-- The upload was paused, and its requests were cancelled. -/
  | paused (pool : Pool Phase)
      (running : upload.session.verdict = .running)
      (unfinished : upload.session.completed = false)
      (same :
        pool.flights.Perm (upload.pool.flights.map Flight.cancel)) :
      Heard upload (upload.paused pool)

theorem Heard.refl (upload : Upload Content Phase) :
    Heard upload upload :=
  .moved upload.pool (List.Perm.refl _)

/-! ## What an upload keeps whatever it hears -/

theorem Heard.cutter {upload later : Upload Content Phase}
    (heard : Heard upload later) : later.cutter = upload.cutter := by
  cases heard <;> rfl

theorem Heard.abort {upload later : Upload Content Phase}
    (heard : Heard upload later) : later.abort = upload.abort := by
  cases heard <;> rfl

theorem Heard.resolved {upload later : Upload Content Phase}
    (heard : Heard upload later) : later.resolved = upload.resolved := by
  cases heard <;> rfl

theorem Heard.capacity {upload later : Upload Content Phase}
    (heard : Heard upload later) : later.capacity = upload.capacity := by
  cases heard <;> rfl

theorem Heard.failure {upload later : Upload Content Phase}
    (heard : Heard upload later) : later.failure = upload.failure := by
  cases heard <;> rfl

theorem Heard.sourceDone {upload later : Upload Content Phase}
    (heard : Heard upload later) :
    later.session.sourceDone = upload.session.sourceDone := by
  cases heard <;> rfl

theorem Heard.completed {upload later : Upload Content Phase}
    (heard : Heard upload later) :
    later.session.completed = upload.session.completed := by
  cases heard <;> rfl

/-- The request that completes an upload may be cancelled, but not lost. -/
theorem Heard.closing {upload later : Upload Content Phase}
    (heard : Heard upload later) :
    later.closing = upload.closing ∨
      later.closing = upload.closing.map ({ · with cancelled := true }) := by
  cases heard with
  | moved => exact .inl rfl
  | paused => exact .inr rfl

/-- It stays as it is otherwise. -/
theorem Heard.exists_closing {upload later : Upload Content Phase}
    (heard : Heard upload later) {closing : Closing Phase}
    (closed : upload.closing = some closing) :
    ∃ other, later.closing = some other ∧
      other.receipts = closing.receipts ∧ other.phase = closing.phase := by
  rcases heard.closing with same | same
  · exact ⟨closing, same.trans closed, rfl, rfl⟩
  · rw [closed] at same
    exact ⟨_, same, rfl, rfl⟩

/-- The requests are for the same parts. -/
theorem Heard.numbers {upload later : Upload Content Phase}
    (heard : Heard upload later) :
    later.pool.numbers.Perm upload.pool.numbers := by
  cases heard with
  | moved pool same => exact same.map _
  | paused pool running unfinished same =>
      have numbers := same.map (·.number)
      rw [List.map_map] at numbers
      exact numbers

/-- No request is gained or lost. -/
theorem Heard.size {upload later : Upload Content Phase}
    (heard : Heard upload later) : later.pool.size = upload.pool.size := by
  have length := heard.numbers.length_eq
  rwa [Pool.numbers, Pool.numbers, List.length_map, List.length_map,
    Pool.length_flights, Pool.length_flights] at length

/-- Of the session only the verdict may change. -/
theorem Heard.session {upload later : Upload Content Phase}
    (heard : Heard upload later) :
    later.session =
      { upload.session with verdict := later.session.verdict } := by
  cases heard <;> rfl

/-- A running upload that is paused has all its requests cancelled. -/
theorem pause_of_running {upload : Upload Content Phase}
    (running : upload.session.verdict = .running)
    (unfinished : upload.session.completed = false) :
    upload.pause.1 = upload.paused upload.pool.cancelAll := by
  simp [pause, Session.pause, paused, running, unfinished]

/-- An upload that was decided or has completed is left as it is. -/
theorem pause_of_decided {upload : Upload Content Phase}
    (decided :
      upload.session.verdict ≠ .running ∨
        upload.session.completed = true) :
    upload.pause.1 = upload := by
  unfold pause Session.pause
  by_cases completed : upload.session.completed
  · rw [if_pos completed]
  · rw [if_neg completed]
    have judged := decided.resolve_right completed
    cases verdict : upload.session.verdict with
    | running => exact absurd verdict judged
    | paused => rfl
    | failed => rfl

theorem heard_pause (upload : Upload Content Phase) :
    Heard upload upload.pause.1 := by
  by_cases going :
      upload.session.verdict = .running ∧
        upload.session.completed = false
  · rw [pause_of_running going.1 going.2]
    exact .paused _ going.1 going.2 (by rw [Pool.flights_cancelAll])
  · rw [pause_of_decided (by grind)]
    exact Heard.refl upload

theorem heard_signal (upload : Upload Content Phase) (signal : Signal) :
    Heard upload (upload.signal signal) := by
  cases signal with
  | pause => exact heard_pause upload
  | wakePart number =>
      show Heard upload (if _ then _ else _)
      split
      · exact .moved _ (Pool.flights_wake _ _)
      · exact Heard.refl upload
  | wakeDriver => exact Heard.refl upload
  | note entry => exact Heard.refl upload

theorem Heard.trans {first second third : Upload Content Phase}
    (left : Heard first second) (right : Heard second third) :
    Heard first third := by
  cases left with
  | moved pool same =>
      cases right with
      | moved later after => exact .moved later (after.trans same)
      | paused later running unfinished after =>
          exact .paused later running unfinished
            (after.trans (same.map Flight.cancel))
  | paused pool running unfinished same =>
      cases right with
      | moved later after =>
          exact .paused later running unfinished (after.trans same)
      | paused later again => exact Verdict.noConfusion again

/-- Whatever an upload hears, it has moved its requests or is paused. -/
theorem heard_hear (upload : Upload Content Phase)
    (signals : List Signal) : Heard upload (upload.hear signals) := by
  induction signals generalizing upload with
  | nil => exact Heard.refl upload
  | cons first signals ih =>
      exact (heard_signal upload first).trans (ih _)

end Upload

end Multipart
