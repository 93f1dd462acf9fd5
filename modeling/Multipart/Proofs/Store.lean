import Mathlib.Logic.Relation
import Multipart.Proofs.Plan
import Multipart.Store

/-!
# What the store holds of an upload

Whatever else the store is asked, the parts it holds under an id change only
by requests that name this id.  If all of these bring their own bytes of one
content, then what the store holds are parts of that content, and the object
that they become is the content itself.
-/

namespace Multipart

/-- Holds of a request that names no upload of the given id. -/
def Request.Spares (id : UploadId) : Request → Prop
  | .create _ => True
  | .part target _ _ => target.id ≠ id
  | .complete target _ => target.id ≠ id
  | .abort target => target.id ≠ id
  | .list target => target.id ≠ id

namespace Store

/-! ## Ids are not given twice -/

theorem idOf_inj {store : Store} {left right : Nat}
    (same : store.idOf left = store.idOf right) : left = right :=
  store.names.id_injective same

/-- Holds of an id that the store has given. -/
def HasGiven (store : Store) (id : UploadId) : Prop :=
  ∃ number, number ≤ store.idsGiven ∧ id = store.idOf number

theorem HasGiven.ne_nextId {store : Store} {id : UploadId}
    (given : store.HasGiven id) : id ≠ store.nextId := by
  rcases given with ⟨number, below, rfl⟩
  intro same
  have equal := idOf_inj same
  omega

/-- An id that was given is not without a name. -/
theorem HasGiven.text_ne {store : Store} {id : UploadId}
    (given : store.HasGiven id) : id.text ≠ "" := by
  rcases given with ⟨number, -, rfl⟩
  exact store.names.id_text_ne number

/-! ## What a request changes -/

/-- A request that is refused by its check changes nothing. -/
theorem serve_of_check_eq_error {store : Store} {request : Request}
    {failure : Failure} (checked : request.check = .error failure) :
    store.serve request = (store, .error failure) := by
  unfold serve
  rw [checked]

theorem serve_of_check_eq_ok {store : Store} {request : Request}
    (checked : request.check = .ok ()) :
    store.serve request =
      match request with
      | .create location =>
        ((store.create location).1, .ok (store.create location).2)
      | .part target number body =>
        ((store.takePart target.id number body).1,
          .ofExcept (store.takePart target.id number body).2)
      | .complete target receipts => store.complete target receipts
      | .abort target =>
        ((store.abort target.id).1, .ofExcept (store.abort target.id).2)
      | .list target => (store, .ofExcept (store.list target.id)) := by
  unfold serve
  rw [checked]
  cases request <;> rfl

/-- What may come of a request. -/
inductive Served (store : Store) :
    (request : Request) → Store → request.Conclusion → Prop where
  /-- A request that is answered with a failure changes nothing. -/
  | refused {request : Request} (failure : Failure) :
      Served store request store (.error failure)
  | created (location : Location) :
      Served store (.create location) (store.create location).1
        (.ok (store.create location).2)
  | taken {upload : ActiveUpload} (target : Target) (number : PartNumber)
      (body : Bytes) (found : store.upload? target.id = some upload) :
      Served store (.part target number body)
        ({ store with tagsGiven := store.tagsGiven + 1 }.putUpload target.id
          { upload with
            parts := upload.parts.insert number ⟨store.nextTag, body⟩ })
        (.ok
          ({ number, tag := store.nextTag,
             size := UInt64.ofNat body.length } : Receipt))
  | completed {upload : ActiveUpload} {body : Bytes} (target : Target)
      (receipts : List Receipt)
      (found : store.upload? target.id = some upload)
      (reserves : reserve receipts = .ok ())
      (joined : joinBodies upload.parts receipts = .ok body) :
      Served store (.complete target receipts)
        (({ store with tagsGiven := store.tagsGiven + 1 }.removeUpload
          target.id).putObject upload.location ⟨store.nextTag, body⟩)
        (.ok ({ location := upload.location, tag := store.nextTag } :
          Completion))
  /-- A request that breaks off changes nothing either. -/
  | broken {panic : Panic} (target : Target) (receipts : List Receipt)
      (breaks : reserve receipts = .error panic) :
      Served store (.complete target receipts) store (.panicked panic)
  | aborted (target : Target) :
      Served store (.abort target) (store.removeUpload target.id) (.ok ())
  | listed {receipts : List Receipt} (target : Target)
      (lists : store.list target.id = .ok receipts) :
      Served store (.list target) store (.ok receipts)

/-- Serving a request comes to one of these. -/
theorem served_serve (store : Store) (request : Request) :
    store.Served request (store.serve request).1
      (store.serve request).2 := by
  cases checked : request.check with
  | error failure =>
      rw [serve_of_check_eq_error checked]
      exact .refused failure
  | ok =>
      rw [serve_of_check_eq_ok checked]
      cases request with
      | create location => exact .created location
      | part target number body =>
          dsimp only [takePart]
          split
          · exact .refused _
          · rename_i found
            exact .taken target number body found
      | complete target receipts =>
          dsimp only [complete]
          split
          · exact .refused _
          · rename_i found
            split
            · cases reserves : reserve receipts with
              | error panic => exact .broken target receipts reserves
              | ok =>
                  dsimp only
                  split
                  · exact .refused _
                  · rename_i joined
                    exact .completed target receipts found reserves joined
            · exact .refused _
      | abort target =>
          dsimp only [abort]
          split
          · exact .refused _
          · exact .aborted target
      | list target =>
          dsimp only
          cases lists : store.list target.id with
          | error failure => exact .refused failure
          | ok receipts => exact .listed target lists

theorem served_of_eq {store after : Store} {request : Request}
    {conclusion : request.Conclusion}
    (serves : store.serve request = (after, conclusion)) :
    store.Served request after conclusion := by
  have served := store.served_serve request
  rw [serves] at served
  exact served

/-- A request leaves the supply of names, and takes no name back. -/
theorem names_serve (store : Store) (request : Request) :
    (store.serve request).1.names = store.names ∧
      store.idsGiven ≤ (store.serve request).1.idsGiven ∧
      store.tagsGiven ≤ (store.serve request).1.tagsGiven := by
  have served := store.served_serve request
  generalize (store.serve request).1 = after at *
  generalize (store.serve request).2 = conclusion at *
  cases served with
  | created location => exact ⟨rfl, Nat.le_succ _, Nat.le_refl _⟩
  | taken => exact ⟨rfl, Nat.le_refl _, Nat.le_succ _⟩
  | completed => exact ⟨rfl, Nat.le_refl _, Nat.le_succ _⟩
  | _ => exact ⟨rfl, Nat.le_refl _, Nat.le_refl _⟩

variable {store : Store} {id : UploadId}

theorem HasGiven.serve (given : store.HasGiven id) (request : Request) :
    (store.serve request).1.HasGiven id := by
  rcases given with ⟨number, below, rfl⟩
  rcases store.names_serve request with ⟨names, more, -⟩
  exact ⟨number, Nat.le_trans below more, by rw [idOf, idOf, names]⟩

/-- What an id stands for changes only by taking a part, or is lost. -/
theorem upload?_serve (given : store.HasGiven id) {request : Request}
    {upload : ActiveUpload}
    (found : (store.serve request).1.upload? id = some upload) :
    store.upload? id = some upload ∨
      ∃ target number body old tag,
        request = .part target number body ∧ target.id = id ∧
          store.upload? id = some old ∧
          upload =
            { old with parts := old.parts.insert number { tag, body } } := by
  have served := store.served_serve request
  generalize (store.serve request).1 = after at *
  generalize (store.serve request).2 = conclusion at *
  cases served with
  | refused => exact .inl found
  | created location =>
      change (putUpload _ store.nextId _).upload? id = _ at found
      rw [upload?_putUpload, if_neg given.ne_nextId] at found
      exact .inl found
  | @taken old target number body was =>
      rw [upload?_putUpload] at found
      split at found
      · rename_i same
        obtain rfl := Option.some.inj found
        exact .inr ⟨target, number, body, old, _, rfl, same.symm,
          same ▸ was, rfl⟩
      · exact .inl found
  | completed target receipts was reserves joined =>
      rw [upload?_putObject, upload?_removeUpload] at found
      split at found
      · cases found
      · exact .inl found
  | aborted target =>
      rw [upload?_removeUpload] at found
      split at found
      · cases found
      · exact .inl found
  | broken => exact .inl found
  | listed => exact .inl found

/-- The store may become another by requests that name other uploads. -/
def Elsewhere (id : UploadId) : Store → Store → Prop :=
  Relation.ReflTransGen fun before after =>
    ∃ request : Request, request.Spares id ∧ after = (before.serve request).1

/-! ## Parts of one content -/

/-- Holds when all that is held under the id of a target are its parts. -/
structure Holds (store : Store) (target : Target) (plan : Plan)
    (content : Bytes) : Prop where
  given : store.HasGiven target.id
  located : ∀ {upload}, store.upload? target.id = some upload →
    upload.location = target.location
  /-- Each part has the bytes of its place in the content. -/
  bodies : ∀ {upload number part},
    store.upload? target.id = some upload →
      upload.parts.find? number = some part →
        part.body = plan.slice content (number.toNat - 1)

variable {target : Target} {plan : Plan} {content : Bytes}

/-- A new id stands for an upload without parts. -/
theorem upload?_of_create {origin made : Store} {location : Location}
    (created : origin.serve (.create location) = (made, .ok target)) :
    made.HasGiven target.id ∧ target.location = location ∧
      made.upload? target.id = some { location } := by
  cases served_of_eq created with
  | created =>
      refine ⟨⟨origin.idsGiven + 1, Nat.le_refl _, rfl⟩, rfl, ?_⟩
      change (putUpload _ origin.nextId _).upload? _ = _
      exact (upload?_putUpload _ _ _ _).trans (if_pos rfl)

/-- An upload that was just created holds nothing yet. -/
theorem holds_create {origin made : Store} {location : Location}
    (created : origin.serve (.create location) = (made, .ok target)) :
    made.Holds target plan content ∧ target.location = location := by
  obtain ⟨given, located, found⟩ := upload?_of_create created
  refine ⟨⟨given, ?_, ?_⟩, located⟩
  · intro upload entry
    obtain rfl := Option.some.inj (found.symm.trans entry)
    exact located.symm
  · intro upload number part entry held
    obtain rfl := Option.some.inj (found.symm.trans entry)
    cases held

/-- A request may bring the bytes of a part, or none. -/
theorem Holds.serve (holds : store.Holds target plan content)
    {request : Request}
    (brings : ∀ {aim number body}, request = .part aim number body →
      aim.id = target.id → body = plan.slice content (number.toNat - 1)) :
    (store.serve request).1.Holds target plan content := by
  refine ⟨holds.given.serve request, ?_, ?_⟩
  · intro upload found
    rcases upload?_serve holds.given found with
      same | ⟨aim, number, body, old, tag, rfl, named, was, rfl⟩
    · exact holds.located same
    · have located := holds.located was
      exact located
  · intro upload number part found held
    rcases upload?_serve holds.given found with
      same | ⟨aim, taken, body, old, tag, rfl, named, was, rfl⟩
    · exact holds.bodies same held
    · rw [PartTable.find?_insert] at held
      split at held
      · rename_i new
        obtain rfl := Option.some.inj held
        rw [new]
        exact brings rfl named
      · exact holds.bodies was held

/-- What other uploads do leaves the parts that are held. -/
theorem Holds.elsewhere {after : Store}
    (holds : store.Holds target plan content)
    (apart : Elsewhere target.id store after) :
    after.Holds target plan content := by
  induction apart with
  | refl => exact holds
  | tail before step ih =>
      rcases step with ⟨request, spares, rfl⟩
      refine ih.serve fun same named => ?_
      rw [same] at spares
      exact absurd named spares

/-! ## The object that an upload becomes -/

/-- The bytes that are held under a number. -/
def bodyAt (parts : PartTable StoredPart) (number : PartNumber) : Bytes :=
  ((parts.find? number).map (·.body)).getD []

/-- Bytes are joined when each part is held under the tag it is listed by. -/
theorem joinBodies_eq_ok_iff {parts : PartTable StoredPart}
    {receipts : List Receipt} {body : Bytes} :
    joinBodies parts receipts = .ok body ↔
      (∀ receipt ∈ receipts, ∃ part,
        parts.find? receipt.number = some part ∧
          part.tag = receipt.tag) ∧
        body = receipts.flatMap fun receipt =>
          bodyAt parts receipt.number := by
  induction receipts generalizing body with
  | nil =>
      rw [joinBodies, Except.ok.injEq]
      exact ⟨fun same => ⟨nofun, same.symm⟩, fun held => held.2.symm⟩
  | cons receipt receipts ih =>
      rw [List.forall_mem_cons, joinBodies]
      constructor
      · intro joined
        split at joined
        · cases joined
        · rename_i part found
          split at joined
          · rename_i tagged
            split at joined
            · cases joined
            · rename_i rest tail
              obtain rfl := Except.ok.inj joined
              obtain ⟨held, rfl⟩ := ih.mp tail
              refine ⟨⟨⟨part, found, tagged⟩, held⟩, ?_⟩
              rw [List.flatMap_cons, bodyAt, found]
              rfl
          · cases joined
      · rintro ⟨⟨⟨part, found, tagged⟩, held⟩, rfl⟩
        rw [found]
        dsimp only
        rw [if_pos tagged, ih.mpr ⟨held, rfl⟩, List.flatMap_cons, bodyAt,
          found]
        rfl

/-- What is joined are the bytes of the listed parts. -/
theorem joinBodies_eq_ok {parts : PartTable StoredPart}
    {receipts : List Receipt} {body : Bytes}
    (bodies : ∀ {number part}, parts.find? number = some part →
      part.body = plan.slice content (number.toNat - 1))
    (joined : joinBodies parts receipts = .ok body) :
    body =
      ((receipts.map (·.number)).map fun number =>
        plan.slice content (number.toNat - 1)).flatten := by
  obtain ⟨held, rfl⟩ := joinBodies_eq_ok_iff.mp joined
  rw [List.map_map, List.flatMap_def]
  refine congrArg List.flatten (List.map_congr_left ?_)
  intro receipt member
  obtain ⟨part, found, _⟩ := held receipt member
  rw [bodyAt, found]
  exact bodies found

/-- The parts of a whole content become the content itself. -/
theorem Holds.complete (holds : store.Holds target plan content)
    {after : Store} {receipts : List Receipt} {completion : Completion}
    (completed :
      store.serve (.complete target receipts) = (after, .ok completion))
    (numbers : receipts.map (·.number) = plan.numbers)
    (whole : content.length = plan.total) :
    completion.location = target.location ∧
      after.object? target.location = some ⟨completion.tag, content⟩ ∧
      after.upload? target.id = none := by
  cases served_of_eq completed with
  | completed _ _ found _ joined =>
      have same := holds.located found
      have bytes := joinBodies_eq_ok (holds.bodies found) joined
      rw [numbers, plan.map_numbers, plan.flatten_slices, ← Plan.total,
        ← whole, List.take_length] at bytes
      rw [same, bytes]
      refine ⟨rfl, ?_, ?_⟩
      · rw [object?_putObject, if_pos rfl]
      · rw [upload?_putObject, upload?_removeUpload, if_pos rfl]

end Store

end Multipart
