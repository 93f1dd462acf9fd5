import Multipart.Proofs.Carrying

/-!
# Uploads that can be driven on

An upload can be driven on as long as it has room for a part, a request for
whatever it has begun, and no part left once it is aborted.  Every step keeps
it so, except for the one that ends a poll for want of a receipt.
-/

namespace Multipart

variable {World Content Phase : Type} {target : Target} {plan : Plan}
  {existing : PartTable Receipt}

/-- Holds of an upload that nothing keeps from going on. -/
structure Upload.Poised (upload : Upload Content Phase) : Prop where
  /-- There is room for at least one part. -/
  roomy : upload.capacity ≠ some 0
  /-- What has begun to be completed has a request for that. -/
  closes : upload.IsGoing → upload.session.completing = true →
    upload.closing ≠ none
  /-- An upload that is aborted has given up its parts. -/
  aborts : upload.abort ≠ none → upload.pool.flights = []

namespace Upload.Poised

variable {upload later : Upload Content Phase}

/-- A limit of zero is no limit. -/
theorem ofPlan (target : Target) (plan : Plan) (given : List Receipt)
    (limit : Option Nat) (content : Content) :
    (Upload.ofPlan target plan given limit content :
      Upload Content Phase).Poised where
  roomy := by
    change limitOf limit ≠ some 0
    match limit with
    | none => exact nofun
    | some 0 => exact nofun
    | some (count + 1) => exact nofun
  closes _ begun := by cases begun
  aborts aborted := absurd rfl aborted

/-- An upload may change otherwise, as long as it goes on as it did. -/
theorem reduce (poised : upload.Poised)
    (capacity : later.capacity = upload.capacity)
    (closes : later.IsGoing → upload.IsGoing ∧
      later.session.completing = upload.session.completing ∧
      later.closing = upload.closing)
    (aborts : later.abort ≠ none → later.pool.flights = []) :
    later.Poised where
  roomy := by
    rw [capacity]
    exact poised.roomy
  closes going begun := by
    rcases closes going with ⟨before, completing, closing⟩
    rw [closing]
    exact poised.closes before (completing.symm.trans begun)
  aborts := aborts

theorem heard (poised : upload.Poised) (heard : Heard upload later) :
    later.Poised := by
  cases heard with
  | moved pool same =>
      refine poised.reduce rfl ?_ fun aborted => ?_
      · exact fun going => ⟨⟨going.running, going.unresolved⟩, rfl, rfl⟩
      · have none := poised.aborts aborted
        rw [none] at same
        exact List.perm_nil.mp same
  | paused pool running unfinished same =>
      refine poised.reduce rfl ?_ fun aborted => ?_
      · exact fun going => Verdict.noConfusion going.running
      · have none := poised.aborts aborted
        rw [none] at same
        exact List.perm_nil.mp same

/-- An open upload is poised if it was, as long as it stays open. -/
theorem opened (poised : upload.Poised)
    (capacity : later.capacity = upload.capacity)
    (verdict : later.session.verdict = upload.session.verdict)
    (resolved : later.resolved = upload.resolved)
    (completing :
      later.session.completing = upload.session.completing)
    (closing : later.closing = upload.closing)
    (unaborted : later.abort = none) : later.Poised :=
  poised.reduce capacity
    (fun going =>
      ⟨⟨verdict.symm.trans going.running,
        resolved.symm.trans going.unresolved⟩, completing, closing⟩)
    fun aborted => absurd unaborted aborted

/-- An upload that goes on no more is poised without its parts. -/
theorem stopped (roomy : later.capacity ≠ some 0)
    (stops : ¬ later.IsGoing) (none : later.pool.flights = []) :
    later.Poised :=
  ⟨roomy, fun going => absurd going stops, fun _ => none⟩

theorem resolve (roomy : upload.resolve.capacity ≠ some 0) :
    upload.resolve.Poised :=
  stopped roomy (fun going => Bool.noConfusion going.unresolved) rfl

theorem fail (host : Host World Content Phase) {failure : Failure}
    (roomy : (upload.fail host failure).1.capacity ≠ some 0) :
    (upload.fail host failure).1.Poised :=
  stopped roomy (Upload.not_isGoing_fail host) (flights_fail host)

/-- An upload that has no room for a part has one in flight. -/
theorem size_ne_zero (poised : upload.Poised)
    (full : upload.hasRoom = false) : upload.pool.size ≠ 0 := by
  intro none
  rw [hasRoom, none] at full
  split at full
  · cases full
  · rename_i limit limited
    have zero : limit = 0 := by simpa using full
    exact poised.roomy (limited.trans (congrArg some zero))

end Upload.Poised

/-- Every step leaves an upload poised, unless it lacks a receipt. -/
theorem Step.poised {host : Host World Content Phase}
    {place later : Place World Content Phase} {outcome : Option Outcome}
    (step : Step host place later outcome)
    (sound : place.upload.Sound target plan existing)
    (poised : place.upload.Poised)
    (faultless : ∀ number count,
      outcome ≠ some (.faulted (.noReceipt number count))) :
    later.upload.Poised := by
  have roomy : later.upload.capacity ≠ some 0 := by
    rw [step.capacity]
    exact poised.roomy
  have part {flight : Flight Phase} {queued : List (Flight Phase)}
      (opened : place.upload.IsOpen)
      (front : place.upload.pool.queued = flight :: queued) :
      (place.heardPart host flight queued).upload.Poised ∧
        (place.heardPart host flight queued).upload.IsOpen :=
    ⟨poised.heard (Upload.heard_heardPart host front),
      opened.heard (Upload.heard_heardPart host front)⟩
  have cut {after : Place World Content Phase} {cutter : Cutter Content}
      {outcome : Cutter.Outcome} (may : place.upload.MayCut)
      (polled :
        place.upload.cutter.poll host.source place =
          (after, cutter, outcome)) :
      after.upload.Poised ∧ after.upload.IsOpen :=
    ⟨poised.heard (Cutter.polled host polled).heard,
      may.toIsOpen.heard (Cutter.polled host polled).heard⟩
  cases step with
  | withdrawn opened =>
      exact poised.opened rfl rfl rfl rfl rfl opened.unaborted
  | waiting opened front | recalled opened front | received opened front =>
      rcases part opened front with ⟨poised, opened⟩
      exact poised.opened rfl rfl rfl rfl rfl opened.unaborted
  | refused => exact .fail host roomy
  | resting => exact poised
  | starved may polled | exhausted may polled | snapped may polled =>
      rcases cut may polled with ⟨poised, opened⟩
      exact poised.opened rfl rfl rfl rfl rfl opened.unaborted
  | cut may polled =>
      rcases cut may polled with ⟨poised, opened⟩
      change (Upload.sendPart _ _ _).Poised
      rw [Upload.sendPart]
      dsimp only
      split <;> exact poised.opened rfl rfl rfl rfl rfl opened.unaborted
  | spoiled => exact .fail host roomy
  | closes opened =>
      exact ⟨roomy, fun _ _ => Option.some_ne_none _,
        fun aborted => absurd opened.unaborted aborted⟩
  | stumbles => exact absurd rfl (faultless _ _)
  | parks => exact .resolve roomy
  | unclosed => exact .resolve roomy
  | @closing closing _ unaborted closed =>
      have heard := place.heard (host.askClosing place closing)
      exact ⟨roomy, fun _ _ => Option.some_ne_none _,
        fun aborted => absurd (heard.abort.trans unaborted) aborted⟩
  | reopened => exact .resolve roomy
  | rejected => exact .fail host roomy
  | completes => exact .resolve roomy
  | @collapsed closing _ _ unaborted closed =>
      have heard := place.heard (host.askClosing place closing)
      obtain ⟨other, same, _, _⟩ := heard.exists_closing closed
      refine ⟨roomy, fun _ _ => ?_,
        fun aborted => absurd (heard.abort.trans unaborted) aborted⟩
      rw [Place.become, ← Option.isSome_iff_ne_none,
        Upload.isSome_closing_rephase, same]
      rfl
  | @aborting phase _ begun =>
      have heard := place.heard (host.askAbort place phase)
      have poised := poised.heard heard
      have flights := poised.aborts (by
        rw [heard.abort, begun]
        exact Option.some_ne_none _)
      refine .stopped roomy (fun going => ?_) flights
      have failed :
          (place.hear
            (host.askAbort place phase)).upload.session.verdict =
              .failed :=
        (sound.begun_askAbort begun).2
      exact Verdict.noConfusion (failed.symm.trans going.running)
  | aborted => exact .resolve roomy

/-- What is known of an upload that is driven and has not resolved. -/
structure Upload.Driven (target : Target) (plan : Plan)
    (existing : PartTable Receipt) (upload : Upload Content Phase) :
    Prop where
  sound : upload.Sound target plan existing
  poised : upload.Poised
  unresolved : upload.resolved = false

/-- In the middle of a poll an upload can be driven on. -/
theorem Steps.driven {host : Host World Content Phase}
    {place later : Place World Content Phase}
    (steps : Steps host place later)
    (driven : place.upload.Driven target plan existing) :
    later.upload.Driven target plan existing := by
  induction steps with
  | refl => exact driven
  | tail before step ih =>
      exact ⟨ih.sound.step ih.unresolved step,
        step.poised ih.sound ih.poised fun _ _ => nofun,
        step.unresolved rfl ih.unresolved⟩

end Multipart
