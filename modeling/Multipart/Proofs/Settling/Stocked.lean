import Multipart.Proofs.Settling.Stocks
import Multipart.Proofs.Upload.Keeping

/-!
# What is left of an upload that ends

Until an upload fails or completes, the store has every part that the upload
counts as done, if it ever had those that the upload began with.  And of the
request that completes the upload it is known throughout that it was sent once
it has begun, and that it is cancelled by a pause only.  Every step of a poll
keeps this on a host that relays to the store.
-/

namespace Multipart

variable {World Content Phase : Type} {target : Target} {plan : Plan}
  {existing : PartTable Receipt} {host : Host World Content Phase}
  {store : World → Store}

/-! ## The request that completes an upload -/

namespace Upload

variable {upload later : Upload Content (Marked Phase)}
  {facts : List Event}

/-- What is known of the request that completes an upload, if it has one. -/
structure Seals (upload : Upload Content (Marked Phase))
    (facts : List Event) : Prop where
  sent : ∀ closing, upload.closing = some closing →
    closing.phase.begun = true → 0 < facts.countP Event.closes
  cancelled : ∀ closing, upload.closing = some closing →
    closing.cancelled = true → upload.session.verdict = .paused

theorem Seals.of_unclosed (unclosed : upload.closing = none) :
    upload.Seals facts where
  sent _ closed := by cases unclosed.symm.trans closed
  cancelled _ closed := by cases unclosed.symm.trans closed

theorem Seals.heard (seals : upload.Seals facts)
    (heard : Heard upload later) : later.Seals facts := by
  cases heard with
  | moved => exact ⟨seals.sent, seals.cancelled⟩
  | paused =>
      refine ⟨fun closing closed => ?_, fun _ _ _ => rfl⟩
      obtain ⟨old, was, rfl⟩ := Option.map_eq_some_iff.mp closed
      exact seals.sent old was

theorem closing_fail (host : Host World Content (Marked Phase))
    {failure : Failure} (unclosed : upload.closing = none) :
    (upload.fail host failure).1.closing = none := by
  rw [Upload.fail]
  cases upload.session.verdict with
  | running => rfl
  | paused => exact unclosed
  | failed => exact unclosed

theorem closing_sendPart (host : Host World Content (Marked Phase))
    (body : Bytes) :
    (upload.sendPart host body).closing = upload.closing := by
  rw [sendPart]
  dsimp only
  split <;> rfl

end Upload

namespace Upload.Seals

variable {place later : Place (Recorded World) Content (Marked Phase)}

/-- The request that completes an upload was sent once it was polled. -/
theorem pos_of_polled (host : Host World Content Phase)
    (seals : place.upload.Seals place.world.facts)
    {closing : Closing (Marked Phase)}
    (closed : place.upload.closing = some closing) :
    let heard := place.hear (host.recording.askClosing place closing)
    0 < heard.world.facts.countP Event.closes := by
  intro heard
  have facts : heard.world.facts = _ :=
    facts_poll host place
      (.complete place.upload.session.target closing.receipts)
      closing.phase
  rw [facts, List.countP_append, List.countP_append]
  cases begun : closing.phase.begun with
  | true =>
      have sent := seals.sent closing closed begun
      omega
  | false =>
      have sends : (closing.phase.facts
          (.complete place.upload.session.target
            closing.receipts)).countP Event.closes = 1 := by
        rw [Marked.facts, begun]
        rfl
      omega

theorem step (seals : place.upload.Seals place.world.facts)
    (sound : place.upload.Sound target plan existing)
    {outcome : Option Outcome}
    (step : Step host.recording place later outcome) :
    later.upload.Seals later.world.facts := by
  have part {flight : Flight (Marked Phase)}
      {queued : List (Flight (Marked Phase))}
      (opened : place.upload.IsOpen)
      (front : place.upload.pool.queued = flight :: queued) :
      (place.heardPart host.recording flight queued).upload.closing =
        none :=
    (opened.heard (Upload.heard_heardPart host.recording front)).unclosed
  have cut {after : Place (Recorded World) Content (Marked Phase)}
      {cutter : Cutter Content} {outcome : Cutter.Outcome}
      (may : place.upload.MayCut)
      (polled :
        place.upload.cutter.poll host.recording.source place =
          (after, cutter, outcome)) : after.upload.closing = none :=
    (may.toIsOpen.heard (Cutter.polled host.recording polled).heard).unclosed
  cases step with
  | withdrawn opened => exact of_unclosed opened.unclosed
  | waiting opened front => exact of_unclosed (part opened front)
  | recalled opened front => exact of_unclosed (part opened front)
  | received opened front => exact of_unclosed (part opened front)
  | refused opened front wanted answer left =>
      subst left
      exact of_unclosed
        (Upload.closing_fail host.recording (part opened front))
  | resting => exact seals
  | starved may polled =>
      have unclosed := cut may polled
      exact of_unclosed unclosed
  | cut may polled =>
      exact of_unclosed
        ((Upload.closing_sendPart _ _).trans (cut may polled))
  | spoiled may polled =>
      exact of_unclosed
        (Upload.closing_fail host.recording (cut may polled))
  | exhausted may polled =>
      have unclosed := cut may polled
      exact of_unclosed unclosed
  | snapped may polled =>
      have unclosed := cut may polled
      exact of_unclosed unclosed
  | closes opened may =>
      -- The request is new: it was not sent, and nobody has cancelled it.
      simp only [Session.mayComplete, Bool.and_eq_true,
        decide_eq_true_eq] at may
      constructor
      · rintro closing ⟨⟩ ⟨⟩
      · rintro closing ⟨⟩ cancelled
        cases may.1.2.symm.trans (of_decide_eq_true cancelled)
  | stumbles opened => exact of_unclosed opened.unclosed
  | parks opened => exact of_unclosed opened.unclosed
  | unclosed => exact of_unclosed rfl
  | closing unaborted closed wanted answer =>
      have sent := seals.pos_of_polled host closed
      refine ⟨fun _ _ _ => sent, ?_⟩
      rintro closing ⟨⟩ cancelled
      cases wanted.symm.trans cancelled
  | reopened => exact of_unclosed rfl
  | rejected unaborted closed wanted answer left =>
      subst left
      exact of_unclosed (Upload.closing_fail host.recording rfl)
  | completes => exact of_unclosed rfl
  | @collapsed closing _ _ _ closed =>
      have sent := seals.pos_of_polled host closed
      have heard :=
        seals.heard (place.heard (host.recording.askClosing place closing))
      refine ⟨fun _ _ _ => sent, fun other rephased cancelled => ?_⟩
      obtain ⟨before, held, rfl⟩ := Option.map_eq_some_iff.mp rephased
      exact heard.cancelled before held cancelled
  | aborting begun => exact of_unclosed (sound.begun_askAbort begun).1
  | aborted begun => exact of_unclosed (sound.begun_askAbort begun).1

/-- An upload that resolves with a failure was paused, or has failed. -/
theorem judged_of_error (seals : place.upload.Seals place.world.facts)
    (sound : place.upload.Sound target plan existing) {failure : Failure}
    (step : Step host.recording place later
      (some (.resolved (.error failure)))) :
    later.upload.session.verdict ≠ .running := by
  generalize last : some (Outcome.resolved (.error failure)) = final
    at step
  cases step with
  | refused => exact Upload.judged_fail host.recording last
  | spoiled => exact Upload.judged_fail host.recording last
  | rejected => exact Upload.judged_fail host.recording last
  | parks opened paused =>
      intro running
      cases paused.symm.trans running
  | unclosed unaborted closed cancelled =>
      intro running
      cases (seals.cancelled _ closed cancelled).symm.trans running
  | @reopened closing _ _ _ _ _ cancelled =>
      intro running
      have heard :=
        seals.heard (place.heard (host.recording.askClosing place closing))
      rw [Option.any_eq_true] at cancelled
      obtain ⟨other, closed, cancelled⟩ := cancelled
      have paused := heard.cancelled other closed cancelled
      cases paused.symm.trans running
  | aborted begun =>
      intro running
      cases (sound.begun_askAbort begun).2.symm.trans running
  | _ => cases last

end Upload.Seals

/-! ## The parts that the store has -/

/-- Holds when the store has what an upload counts, unless that has ended. -/
def Stocked (store : World → Store) (target : Target)
    (place : Place (Recorded World) Content (Marked Phase)) : Prop :=
  place.upload.session.verdict ≠ .failed →
    place.upload.session.completed = false →
      (store place.world.world).Stocks target.id
        place.upload.session.progress

/-- Every step leaves to the store what the upload counts. -/
theorem Stocked.step
    {place later : Place (Recorded World) Content (Marked Phase)}
    (relays : host.Relays store target.id)
    (sound : place.upload.Sound target plan existing)
    (unresolved : place.upload.resolved = false)
    (stocked : Stocked store target place) {outcome : Option Outcome}
    (step : Step host.recording place later outcome) :
    Stocked store target later := by
  intro judged going
  have stocks : (store place.world.world).Stocks target.id
      place.upload.session.progress :=
    stocked (fun failed => judged (step.failed sound unresolved failed))
      (sound.uncompleted unresolved)
  cases step.serves relays sound with
  | apart apart same =>
      rw [same]
      exact stocks.elsewhere apart
  | taken apart flying serves same =>
      have fresh := (sound.sent _ flying).2.2
      rw [← sound.existed] at fresh
      rw [same]
      exact (stocks.elsewhere apart).takePart serves rfl fresh
  | ended apart serves bare gone decided =>
      rcases decided with completed | failed
      · cases going.symm.trans completed
      · exact absurd failed judged

end Multipart
