import Multipart.Proofs.Relaying
import Multipart.Proofs.Uploader

/-!
# What an upload stores

When an upload resolves with an object, the store has just this object: all
the bytes that the source has given, one after another, under the tag that
the upload tells.  The main statement, `stored_exactly`, is about every way
in which the source cuts the content, every order in which the requests of an
upload are done, and whatever else the store serves meanwhile.
-/

namespace Multipart

variable {World Content Phase : Type} {target : Target} {plan : Plan}
  {existing : PartTable Receipt} {content : Bytes}

/-- Holds when the source gives a content, as far as it has got. -/
structure History.Gives (history : History) (content : Bytes) : Prop where
  begins : drawn history.events <+: content
  ends : .ended ∈ history.events → drawn history.events = content

/-- What was drawn is the beginning of the content. -/
theorem History.Gives.whole {recorded : Recorded World}
    (gives : recorded.history.Gives content) :
    drawn recorded.facts <+: content := by
  have begins := gives.begins
  rw [← History.drawn_facts] at begins
  exact begins

namespace Filling

variable {host : Host World Content Phase} {store : World → Store}

/-- Nothing is held of an upload that has not been driven yet. -/
theorem begin {world : World} (given : List Receipt) (limit : Option Nat)
    (source : Content)
    (holds : (store world).Holds target plan content) :
    Filling store target plan
      (Progress.ofReceipts
        (given.filter fun receipt =>
          plan.contains receipt.number)).existing content
      (Place.begin world (.ofPlan target plan given limit source) :
        Place (Recorded World) Content (Marked Phase)) where
  accounted := Accounted.begin world target plan given limit source
  carries :=
    { held := fun _ => List.suffix_rfl
      flying := fun _ member => by cases member
      sent := fun member => by cases member }
  holds := holds

variable {place later : Place (Recorded World) Content (Marked Phase)}

/-- The step that completes an upload leaves its object in the store. -/
theorem complete (relays : host.Relays store target.id)
    (filling : Filling store target plan existing content place)
    {completion : Completion}
    (step : Step host.recording place later
      (some (.resolved (.ok completion))))
    (gives : later.world.history.Gives content) :
    content.length = plan.total ∧
      completion.location = target.location ∧
      (store later.world.world).object? target.location =
        some ⟨completion.tag, content⟩ ∧
      (store later.world.world).upload? target.id = none := by
  rcases step.completes_of_ok with ⟨closing, done⟩
  have sound := filling.accounted.sound
  have accounts := filling.accounted.accounts
  have numbers := (sound.closing closing done.closed).numbers
  obtain ⟨ended, measured⟩ :=
    accounts.ended (accounts.closing closing done.closed).1
  have reached : later.world =
      (place.hear (host.recording.askClosing place closing)).world := by
    rw [done.reached]
    rfl
  -- The request that completes the upload draws no more bytes.
  have facts := facts_poll host place
    (.complete place.upload.session.target closing.receipts) closing.phase
  change (place.hear (host.recording.askClosing place closing)).world.facts =
    _ at facts
  rw [← reached, List.append_assoc] at facts
  have same : drawn later.world.facts = drawn place.world.facts := by
    rw [facts]
    apply drawn_append_of_dry
    intro event member
    rcases List.mem_append.mp member with asked | answered
    · exact closing.phase.dry_facts _ event asked
    · exact Response.dry_event _ event answered
  have whole : content.length = plan.total := by
    have last : .ended ∈ later.world.history.events := by
      rw [← History.mem_facts rfl]
      change _ ∈ later.world.facts
      rw [facts]
      exact List.mem_append_left _ ended
    rw [← gives.ends last, ← History.drawn_facts]
    exact (congrArg List.length same).trans measured
  refine ⟨whole, ?_⟩
  have world : later.world.world =
      (host.poll place.world.world place.upload.session
        (.complete place.upload.session.target closing.receipts)
        closing.phase.phase).world := by
    rw [reached]
    exact Recorded.world_witness _ _ _ _ _
  have relayed := relays.polls place.world.world place.upload.session
    (.complete place.upload.session.target closing.receipts)
    closing.phase.phase
  dsimp only at relayed
  rw [Response.eq_of_mark_eq_finished done.answer, ← world,
    sound.aimed] at relayed
  cases relayed with
  | served apart serves =>
      exact (filling.holds.elsewhere apart).complete serves numbers whole

/-- A poll that resolves with an object leaves it in the store. -/
theorem resolves (relays : host.Relays store target.id)
    (filling : Filling store target plan existing content place)
    {completion : Completion}
    (resolved :
      place.poll host.recording =
        (later, .resolved (.ok completion)))
    (gives : later.world.history.Gives content) :
    content.length = plan.total ∧
      completion.location = target.location ∧
      (store later.world.world).object? target.location =
        some ⟨completion.tag, content⟩ ∧
      (store later.world.world).upload? target.id = none := by
  cases ended : place.upload.resolved with
  | true =>
      rw [Place.poll_of_resolved host.recording ended] at resolved
      cases resolved
  | false =>
      obtain ⟨middle, still, unresolved, last⟩ :=
        (Filling.lasts relays).poll_keeps (fun _ => filling) ended
      rw [resolved] at last
      have before := last.grows.prefix_drawn.trans gives.whole
      exact (still before).complete relays last gives

end Filling

/-- How an uploader starts an upload, and what may have happened since. -/
structure Uploader.Starts (uploader : Uploader) (length : UInt64)
    (location : Location) (target : Target) (plan : Plan)
    (store : Store) : Prop where
  configured : uploader.IsConfigured
  accepted : uploader.startPlan length = .ok plan
  /-- The store has given the target when it was asked for the location. -/
  created : ∃ origin made : Store,
    origin.serve (.create location) = (made, .ok target) ∧
      made.Elsewhere target.id store

/--
An upload that resolves with an object has stored it: at that moment the
store has the bytes that the source gave under the location and the tag that
the upload tells, and the id of the upload stands for nothing any more.
-/
theorem stored_exactly {host : Host World Content Phase}
    {store : World → Store} (relays : host.Relays store target.id)
    {uploader : Uploader} {length : UInt64} {location : Location}
    {world : World}
    (starts : uploader.Starts length location target plan (store world))
    {source : Content}
    {place after : Place (Recorded World) Content (Marked Phase)}
    (runs :
      (Place.begin world (uploader.upload target plan [] source)).Runs
        host store target.id place)
    {completion : Completion}
    (resolved :
      place.poll host.recording = (after, .resolved (.ok completion)))
    (gives : after.world.history.Gives content) :
    completion.location = location ∧
      (store after.world.world).object? location =
        some ⟨completion.tag, content⟩ ∧
      (store after.world.world).upload? target.id = none ∧
      content.length = length.toNat := by
  rcases starts.created with ⟨origin, made, created, apart⟩
  rcases Store.holds_create created with ⟨holds, rfl⟩
  have whole : drawn place.world.facts <+: content := by
    have grows := Place.grows_poll host place
    rw [resolved] at grows
    exact grows.prefix_drawn.trans gives.whole
  have filling := (Filling.begin [] uploader.limit source
    (holds.elsewhere apart)).runs relays runs whole
  obtain ⟨measured, located, object, gone⟩ :=
    filling.resolves relays resolved gives
  refine ⟨located, object, gone, ?_⟩
  obtain ⟨rfl, exact⟩ :=
    Uploader.isExact_of_startPlan starts.configured starts.accepted
  rw [measured, Plan.total_ofLength exact]

/-- A host that hands every request to its store at once. -/
def Host.direct : Host Store Bytes Unit where
  unsent _ := ()
  poll store _ request _ :=
    { world := (store.serve request).1
      outcome := .ofConclusion () (store.serve request).2 }
  size := List.length
  pull store _ content :=
    { world := store, outcome := .bytewise content }

theorem Host.relays_direct (id : UploadId) : Host.direct.Relays (·) id where
  polls store _ request _ := .of_serve id request store ()
  pulls _ _ _ := .refl

/-- An upload in two parts on that host, from an empty store. -/
def Host.directPlace : Place (Recorded Store) Bytes (Marked Unit) :=
  Place.begin (({} : Store).create (.ofPair "bucket" "key")).1
    ((({} : Uploader).withPartSize 2).upload
      (({} : Store).create (.ofPair "bucket" "key")).2 (.ofLength 3 2) []
      [1, 2, 3])

theorem Host.starts_direct :
    (({} : Uploader).withPartSize 2).Starts 3 (.ofPair "bucket" "key")
      (({} : Store).create (.ofPair "bucket" "key")).2 (.ofLength 3 2)
      (({} : Store).create (.ofPair "bucket" "key")).1 where
  configured := ⟨none, 2, rfl⟩
  accepted := rfl
  created :=
    ⟨{}, _, Store.serve_of_check_eq_ok rfl, .refl⟩

/-- The object that an outcome tells, if it tells one. -/
def Outcome.object? : Outcome → Option Completion
  | .resolved (.ok completion) => some completion
  | _ => none

theorem Outcome.eq_of_object? {outcome : Outcome} {completion : Completion}
    (tells : outcome.object? = some completion) :
    outcome = .resolved (.ok completion) := by
  unfold object? at tells
  split at tells
  · rw [Option.some.inj tells]
  · cases tells

/-- The first poll of that upload stores the three bytes. -/
theorem stored_direct :
    ∃ tag,
      (Host.directPlace.poll Host.direct.recording).2 =
          .resolved (.ok { location := .ofPair "bucket" "key", tag }) ∧
        (Host.directPlace.poll Host.direct.recording).1.world.world.object?
            (.ofPair "bucket" "key") =
          some ⟨tag, [1, 2, 3]⟩ := by
  have tells :
      (Host.directPlace.poll Host.direct.recording).2.object? =
        some
          { location := .ofPair "bucket" "key", tag := ⟨"etag-3"⟩ } := by
    decide +kernel
  have given :
      drawn (Host.directPlace.poll
        Host.direct.recording).1.world.history.events = [1, 2, 3] := by
    decide +kernel
  have resolved := Outcome.eq_of_object? tells
  have stored := stored_exactly (Host.relays_direct _) Host.starts_direct
    (Place.Runs.rest :
      Host.directPlace.Runs Host.direct (·) _ Host.directPlace)
    (Prod.ext rfl resolved) ⟨given ▸ List.prefix_rfl, fun _ => given⟩
  exact ⟨_, resolved, stored.2.1⟩

end Multipart
