import Multipart.Proofs.Carrying
import Multipart.Proofs.Serving

/-!
# Uploads that fill a store

Whatever a client makes of the requests of an upload, and whatever else the
store behind it serves, the store holds under the id of the upload nothing
but parts of the content that the upload is given.
-/

namespace Multipart

variable {World Content Phase : Type} {target : Target} {plan : Plan}
  {existing : PartTable Receipt} {content : Bytes}

/-- A store answers a part with a receipt of its number. -/
theorem Store.number_of_serve {store after : Store} {aim : Target}
    {number : PartNumber} {body : Bytes} {receipt : Receipt}
    (serves :
      store.serve (.part aim number body) = (after, .ok receipt)) :
    receipt.number = number := by
  cases served_of_eq serves
  rfl

theorem Host.Relays.isNumbered {host : Host World Content Phase}
    {store : World → Store} {id : UploadId} (relays : host.Relays store id) :
    host.IsNumbered := by
  intro world session aim number body phase receipt answer
  have relayed := relays.polls world session (.part aim number body) phase
  dsimp only at relayed
  rw [answer] at relayed
  cases relayed with
  | served apart serves => exact Store.number_of_serve serves

/-! ## Uploads through such a client -/

/-- What is known of an upload and of the store that it fills. -/
structure Filling (store : World → Store) (target : Target) (plan : Plan)
    (existing : PartTable Receipt) (content : Bytes)
    (place : Place (Recorded World) Content (Marked Phase)) : Prop where
  accounted : Accounted target plan existing place
  carries :
    Carries target plan existing content place.upload place.world.facts
  holds : (store place.world.world).Holds target plan content

namespace Filling

variable {host : Host World Content Phase} {store : World → Store}
  {place : Place (Recorded World) Content (Marked Phase)}

/-- Every step fills the store with parts of the content. -/
theorem step (relays : host.Relays store target.id)
    (filling : Filling store target plan existing content place)
    (unresolved : place.upload.resolved = false)
    {later : Place (Recorded World) Content (Marked Phase)}
    {outcome : Option Outcome}
    (step : Step host.recording place later outcome)
    (whole : drawn later.world.facts <+: content) :
    Filling store target plan existing content later where
  accounted :=
    filling.accounted.step relays.isNumbered unresolved step
  carries :=
    filling.carries.step filling.accounted.sound
      filling.accounted.accounts.gauge unresolved step whole
  holds := by
    cases step.serves relays filling.accounted.sound with
    | apart apart => exact filling.holds.elsewhere apart
    | @taken middle flight receipt apart flying serves =>
        have own := (filling.carries.flying flight flying).own
        have after : (middle.serve (.part target flight.number
            flight.body)).1.Holds target plan content :=
          (filling.holds.elsewhere apart).serve fun same _ => by
            cases same
            exact own
        rw [serves] at after
        exact after
    | ended apart serves bare =>
        rw [serves]
        exact (filling.holds.elsewhere apart).serve
          fun same _ => absurd same bare

theorem note (filling : Filling store target plan existing content place)
    {event : Event} (idle : event.isFact = false) :
    Filling store target plan existing content (place.note event) where
  accounted := filling.accounted.note idle
  carries := by
    have facts : (place.note event).world.facts = place.world.facts :=
      Recorded.facts_note_of_idle _ _ idle
    rw [facts]
    exact filling.carries
  holds := filling.holds

theorem heard (filling : Filling store target plan existing content place)
    {later : Upload Content (Marked Phase)}
    (heard : Upload.Heard place.upload later) :
    Filling store target plan existing content (place.become later) where
  accounted := filling.accounted.heard heard
  carries := filling.carries.heard heard
  holds := filling.holds

/-- A run fills the store, if what the source gives belongs to the content. -/
theorem lasts (relays : host.Relays store target.id) :
    Lasts host (Store.Aside store target.id) fun place =>
      drawn place.world.facts <+: content →
        Filling store target plan existing content place where
  activate filling whole :=
    { accounted := (filling whole).accounted.activate
      carries := (filling whole).carries.congr rfl rfl
      holds := (filling whole).holds }
  step filling unresolved step whole :=
    (filling (step.grows.prefix_drawn.trans whole)).step relays unresolved
      step whole
  note {place event} filling idle whole := by
    have facts : (place.note event).world.facts = place.world.facts :=
      Recorded.facts_note_of_idle _ _ idle
    rw [facts] at whole
    exact (filling whole).note idle
  heard filling heard whole := (filling whole).heard heard
  change filling apart whole :=
    { accounted := (filling whole).accounted.change _
      carries := (filling whole).carries
      holds := (filling whole).holds.elsewhere apart }
  feed feed filling whole :=
    { accounted := (filling whole).accounted.feed feed
      carries := (filling whole).carries.reduce (filling whole).carries.held
        fun flight member => ⟨flight, member, rfl, rfl⟩
      holds := (filling whole).holds }

theorem runs (relays : host.Relays store target.id)
    (filling : Filling store target plan existing content place)
    {later : Place (Recorded World) Content (Marked Phase)}
    (runs : place.Runs host store target.id later)
    (whole : drawn later.world.facts <+: content) :
    Filling store target plan existing content later :=
  (lasts relays).runs (fun _ => filling) runs whole

end Filling

end Multipart
