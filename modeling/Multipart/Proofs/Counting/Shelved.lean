import Multipart.Proofs.Settling.Stocks

/-!
# What the store has of the parts that count

Whatever becomes of an upload, the store that has it has every part of it
that counts.  This lasts beyond the end of the upload, for a store which has
the upload no longer will not have it again; only an id that the store has
not given yet may come to stand for something, and for such an upload no part
counts.
-/

namespace Multipart

variable {World Content Phase : Type} {target : Target} {plan : Plan}
  {existing : PartTable Receipt} {host : Host World Content Phase}
  {store : World → Store}

namespace Store

/-- Holds when a store that has an upload has every part that counts. -/
structure Shelves (store : Store) (id : UploadId) (progress : Progress) :
    Prop where
  /-- The id was given before anything came to count. -/
  given : store.HasGiven id ∨
    store.IsServed ∧ ∀ number receipt, ¬ progress.Counts number receipt
  stocks : store.upload? id ≠ none → store.Stocks id progress

variable {store after : Store} {id : UploadId} {progress : Progress}

theorem Stocks.shelves (stocks : store.Stocks id progress) :
    store.Shelves id progress where
  given := .inl stocks.given
  stocks _ := stocks

/-- A store that has given no part of it may come to have the upload. -/
theorem IsServed.shelves (served : store.IsServed)
    (none : ∀ number receipt, ¬ progress.Counts number receipt) :
    store.Shelves id progress where
  given := .inr ⟨served, none⟩
  stocks there := by
    obtain ⟨active, found⟩ := Option.ne_none_iff_exists'.mp there
    exact ⟨served.hasGiven found, active, found,
      fun number receipt counts => absurd counts (none number receipt)⟩

namespace Shelves

/-- What other uploads do leaves what counts. -/
theorem elsewhere (shelves : store.Shelves id progress)
    (apart : Elsewhere id store after) : after.Shelves id progress := by
  induction apart with
  | refl => exact shelves
  | tail before step ih =>
      rcases step with ⟨request, spares, rfl⟩
      rcases ih.given with given | ⟨served, none⟩
      · refine ⟨.inl (given.serve request), fun there => ?_⟩
        rw [upload?_serve_of_spares given spares] at there
        exact (ih.stocks there).elsewhere
          (.single ⟨request, spares, rfl⟩)
      · exact (served.serve request).shelves none

/-- A part that is taken counts from then on. -/
theorem takePart (shelves : store.Shelves id progress)
    {aim : Target} {number : PartNumber} {body : Bytes} {receipt : Receipt}
    (serves : store.serve (.part aim number body) = (after, .ok receipt))
    (named : aim.id = id)
    (fresh : progress.existing.find? number = none) :
    after.Shelves id (progress.record receipt) := by
  subst named
  have there : store.upload? aim.id ≠ none := by
    cases served_of_eq serves with
    | taken _ _ _ found =>
        rw [found]
        exact Option.some_ne_none _
  exact ((shelves.stocks there).takePart serves rfl fresh).shelves

/-- An upload that is no longer there may be forgotten. -/
theorem ended (shelves : store.Shelves id progress) {request : Request}
    (gone : (store.serve request).1.upload? id = none) :
    (store.serve request).1.Shelves id progress where
  given := shelves.given.imp (·.serve request)
    fun unknown => ⟨unknown.1.serve request, unknown.2⟩
  stocks there := absurd gone there

/-- What has a number is in the store, as long as it has the upload. -/
theorem find?_parts (shelves : store.Shelves id progress)
    {active : ActiveUpload} (there : store.upload? id = some active)
    {number : PartNumber} (counts : number ∈ progress.numbers) :
    ∃ receipt part,
      progress.receipt? number = some receipt ∧
        active.parts.find? number = some part ∧
        part.tag = receipt.tag := by
  have stocks := shelves.stocks (by rw [there]; exact nofun)
  obtain ⟨receipt, found⟩ :=
    Option.ne_none_iff_exists'.mp (Progress.receipt?_ne_none counts)
  obtain ⟨other, found', held⟩ := stocks.held
  obtain rfl := Option.some.inj (there.symm.trans found')
  obtain ⟨part, entry, tag⟩ := held number receipt
    (Progress.counts_of_receipt? found)
  exact ⟨receipt, part, found, entry, tag⟩

end Shelves

end Store

/-! ## Every run -/

/-- What is known of an upload and of the store that has its parts. -/
structure Shelved (store : World → Store) (target : Target) (plan : Plan)
    (existing : PartTable Receipt)
    (place : Place (Recorded World) Content (Marked Phase)) : Prop where
  sound : place.upload.Sound target plan existing
  shelves : (store place.world.world).Shelves target.id
    place.upload.session.progress

namespace Shelved

variable {place later : Place (Recorded World) Content (Marked Phase)}

/-- Every step leaves the store with the parts that count. -/
theorem step (relays : host.Relays store target.id)
    (shelved : Shelved store target plan existing place)
    (unresolved : place.upload.resolved = false)
    {outcome : Option Outcome}
    (step : Step host.recording place later outcome) :
    Shelved store target plan existing later where
  sound := shelved.sound.step unresolved step
  shelves := by
    cases step.serves relays shelved.sound with
    | apart apart same =>
        rw [same]
        exact shelved.shelves.elsewhere apart
    | taken apart flying serves same =>
        have fresh := (shelved.sound.sent _ flying).2.2
        rw [← shelved.sound.existed] at fresh
        rw [same]
        exact (shelved.shelves.elsewhere apart).takePart serves rfl fresh
    | ended apart serves bare gone decided same =>
        rw [serves] at gone ⊢
        rw [same]
        exact (shelved.shelves.elsewhere apart).ended gone

theorem heard (shelved : Shelved store target plan existing place)
    {upload : Upload Content (Marked Phase)}
    (heard : Upload.Heard place.upload upload) :
    Shelved store target plan existing (place.become upload) where
  sound := shelved.sound.heard heard
  shelves := by
    have same := Session.progress_of_account heard.account
    change (store place.world.world).Shelves _ upload.session.progress
    rw [same]
    exact shelved.shelves

/-- A run leaves the store with the parts that count. -/
theorem lasts (relays : host.Relays store target.id) :
    Lasts host (Store.Aside store target.id)
      (Shelved store target plan existing) where
  activate shelved := ⟨shelved.sound.activate, shelved.shelves⟩
  step shelved unresolved step := shelved.step relays unresolved step
  note shelved _ := ⟨shelved.sound, shelved.shelves⟩
  heard shelved heard := shelved.heard heard
  change shelved apart := ⟨shelved.sound, shelved.shelves.elsewhere apart⟩
  feed feed shelved := ⟨shelved.sound.feed feed, shelved.shelves⟩

end Shelved

/-- However an upload is obtained, the store has what counts by then. -/
theorem Uploader.Obtains.shelves {uploader : Uploader} {length : UInt64}
    {store : Store} {token : Option Checkpoint} {given : List Receipt}
    (obtains : uploader.Obtains length target plan store token given) :
    store.Shelves target.id
      (Progress.ofReceipts
        (given.filter fun receipt => plan.contains receipt.number)) := by
  cases obtains with
  | started starts =>
      exact ((Uploader.Obtains.started starts).stocks (.inl nofun)).shelves
  | @resumed before token listed served named accepted lists =>
      cases lists with
      | asked wanted apart serves =>
          exact (Store.stocks_list (served.elsewhere apart)
            serves _).shelves
      | skipped unwanted apart =>
          refine (served.elsewhere apart).shelves
            fun number receipt counts => ?_
          cases Progress.counts_ofReceipts.mp counts

end Multipart
