import Multipart.Proofs.Settling.Stocks

/-!
# What a request may change

A request that fails leaves a store as it was.  One that succeeds changes the
upload that it names and no other, and only a completion changes an object,
the one that its upload was to become.  So uploads that are served in turn do
not disturb each other, however their requests are mixed: the main statement
is `served_apart`.
-/

namespace Multipart

/-- The number of a part that may be sent is within the limits. -/
theorem Request.number_of_check {target : Target} {number : PartNumber}
    {body : Bytes}
    (checked : (Request.part target number body).check = .ok ()) :
    1 ≤ number.toNat ∧ number.toNat ≤ 10000 := by
  rw [check] at checked
  cases named : checkTarget .part target with
  | error failure =>
      rw [named] at checked
      cases checked
  | ok =>
      rw [named] at checked
      by_cases outside :
          number.value = 0 ∨ Plan.maxPartCount < number.value
      · simp [bind, Except.bind, outside] at checked
      · obtain ⟨positive, small⟩ := not_or.mp outside
        constructor
        · apply Nat.one_le_iff_ne_zero.mpr
          intro zero
          exact positive (UInt32.toNat_inj.mp zero)
        · exact UInt32.le_iff_toNat_le.mp (UInt32.not_lt.mp small)

namespace Store

/-! ## Parts -/

/-- The part that is held for an upload under a number. -/
def part? (store : Store) (id : UploadId) (number : PartNumber) :
    Option StoredPart :=
  (store.upload? id).bind fun upload => upload.parts.find? number

theorem part?_of_upload? {store : Store} {id : UploadId}
    {upload : ActiveUpload} (found : store.upload? id = some upload)
    (number : PartNumber) :
    store.part? id number = upload.parts.find? number := by
  rw [part?, found]
  rfl

@[simp]
theorem part?_putUpload
    (store : Store) (id : UploadId) (upload : ActiveUpload)
    (other : UploadId) (number : PartNumber) :
    (store.putUpload id upload).part? other number =
      if other = id then upload.parts.find? number
      else store.part? other number := by
  rw [part?, upload?_putUpload]
  split <;> rfl

@[simp]
theorem part?_removeUpload
    (store : Store) (id other : UploadId) (number : PartNumber) :
    (store.removeUpload id).part? other number =
      if other = id then none else store.part? other number := by
  rw [part?, upload?_removeUpload]
  split <;> rfl

@[simp]
theorem part?_putObject
    (store : Store) (location : Location) (object : StoredObject)
    (id : UploadId) (number : PartNumber) :
    (store.putObject location object).part? id number =
      store.part? id number :=
  rfl

/-- A part that is held was held before, or it was taken under a new tag. -/
theorem part?_serve {store : Store} {request : Request} {id : UploadId}
    {number : PartNumber} {part : StoredPart}
    (found : (store.serve request).1.part? id number = some part) :
    store.part? id number = some part ∨
      ∃ target body, request = .part target number body ∧
        request.check = .ok () ∧ target.id = id ∧
        part = ⟨store.nextTag, body⟩ ∧
        store.tagsGiven < (store.serve request).1.tagsGiven := by
  cases checked : request.check with
  | error failure =>
      rw [serve_of_check_eq_error checked] at found
      exact .inl found
  | ok =>
      have served := store.served_serve request
      generalize (store.serve request).1 = after at *
      generalize (store.serve request).2 = conclusion at *
      cases served with
      | refused => exact .inl found
      | created location =>
          change (putUpload _ store.nextId _).part? id number = _ at found
          rw [part?_putUpload] at found
          split at found
          · cases found
          · exact .inl found
      | taken target taken body was =>
          rw [part?_putUpload] at found
          split at found
          · rename_i same
            rw [PartTable.find?_insert] at found
            split at found
            · rename_i new
              obtain rfl := Option.some.inj found
              subst new
              exact .inr ⟨target, body, rfl, rfl, same.symm, rfl,
                Nat.lt_succ_self _⟩
            · rw [same, part?_of_upload? was]
              exact .inl found
          · exact .inl found
      | completed target receipts was =>
          rw [part?_putObject, part?_removeUpload] at found
          split at found
          · cases found
          · exact .inl found
      | broken => exact .inl found
      | aborted target =>
          rw [part?_removeUpload] at found
          split at found
          · cases found
          · exact .inl found
      | listed => exact .inl found

/-- Holds when every part has a number that a part may have. -/
def IsNumbered (store : Store) : Prop :=
  ∀ id number, store.part? id number ≠ none →
    1 ≤ number.toNat ∧ number.toNat ≤ 10000

theorem isNumbered_empty (names : NameSupply) : IsNumbered { names } :=
  fun _ _ held => absurd rfl held

theorem IsNumbered.serve {store : Store} (numbered : store.IsNumbered)
    (request : Request) : (store.serve request).1.IsNumbered := by
  intro id number held
  obtain ⟨part, found⟩ := Option.ne_none_iff_exists'.mp held
  rcases part?_serve found with old | ⟨target, body, rfl, checked, -⟩
  · apply numbered id number
    rw [old]
    exact Option.some_ne_none part
  · exact Request.number_of_check checked

/-! ## Requests one after another -/

/-- The store after requests that were served one after another. -/
def serveAll (store : Store) (requests : List Request) : Store :=
  requests.foldl (fun store request => (store.serve request).1) store

theorem serveAll_append (store : Store) (before after : List Request) :
    store.serveAll (before ++ after) =
      (store.serveAll before).serveAll after :=
  List.foldl_append

theorem serveAll_concat (store : Store) (before : List Request)
    (request : Request) :
    store.serveAll (before ++ [request]) =
      ((store.serveAll before).serve request).1 :=
  store.serveAll_append before [request]

/-- What each of some requests keeps lasts through all of them. -/
theorem serveAll_keeps (holds : Store → Prop) {requests : List Request}
    (keeps : ∀ request ∈ requests, ∀ store, holds store →
      holds (store.serve request).1) {store : Store}
    (begins : holds store) : holds (store.serveAll requests) := by
  induction requests generalizing store with
  | nil => exact begins
  | cons request requests ih =>
      apply ih
      · intro other member
        exact keeps other (List.mem_cons_of_mem _ member)
      · exact keeps request List.mem_cons_self store begins

theorem isServed_serveAll (names : NameSupply) (history : List Request) :
    (serveAll { names } history).IsServed :=
  serveAll_keeps IsServed (fun request _ _ served => served.serve request)
    (isServed_empty names)

theorem isNumbered_serveAll (names : NameSupply) (history : List Request) :
    (serveAll { names } history).IsNumbered :=
  serveAll_keeps IsNumbered
    (fun request _ _ numbered => numbered.serve request)
    (isNumbered_empty names)

/-- Requests for other uploads leave an upload that was created. -/
theorem upload?_serveAll_of_spares {store : Store} {id : UploadId}
    (given : store.HasGiven id) {requests : List Request}
    (spare : ∀ request ∈ requests, request.Spares id) :
    (store.serveAll requests).upload? id = store.upload? id := by
  -- An id that was not given yet might come to stand for a new upload.
  have kept : (store.serveAll requests).HasGiven id ∧
      (store.serveAll requests).upload? id = store.upload? id := by
    apply serveAll_keeps fun after =>
      after.HasGiven id ∧ after.upload? id = store.upload? id
    · intro request member after kept
      constructor
      · exact kept.1.serve request
      · rw [upload?_serve_of_spares kept.1 (spare request member)]
        exact kept.2
    · exact ⟨given, rfl⟩
  exact kept.2

/-! ## What is changed -/

/-- Holds when two stores have the same uploads, but for that of an id. -/
def SameUploadsBut (id : UploadId) (before after : Store) : Prop :=
  ∀ other, other ≠ id → after.upload? other = before.upload? other

/-- Holds when two stores have the same objects. -/
def SameObjects (before after : Store) : Prop :=
  ∀ location, after.object? location = before.object? location

/-- What a request may have changed, by its kind and its answer. -/
inductive Confined (before after : Store) :
    (request : Request) → request.Conclusion → Prop where
  | refused {request : Request} (failure : Failure)
      (same : after = before) :
      Confined before after request (.error failure)
  | broken {request : Request} (panic : request.Breakage)
      (same : after = before) :
      Confined before after request (.panicked panic)
  /-- An upload is created under an id that stood for none. -/
  | created {location : Location} {target : Target}
      (new : before.upload? target.id = none)
      (uploads : SameUploadsBut target.id before after)
      (objects : SameObjects before after) :
      Confined before after (.create location) (.ok target)
  /-- Of the upload itself only the part of the number is changed. -/
  | taken {target : Target} {number : PartNumber} {body : Bytes}
      {receipt : Receipt}
      (parts : ∀ other, other ≠ number →
        after.part? target.id other = before.part? target.id other)
      (uploads : SameUploadsBut target.id before after)
      (objects : SameObjects before after) :
      Confined before after (.part target number body) (.ok receipt)
  /-- Of the objects only that of the upload is changed. -/
  | completed {target : Target} {receipts : List Receipt}
      {completion : Completion} {upload : ActiveUpload}
      (found : before.upload? target.id = some upload)
      (gone : after.upload? target.id = none)
      (uploads : SameUploadsBut target.id before after)
      (objects : ∀ location, location ≠ upload.location →
        after.object? location = before.object? location) :
      Confined before after (.complete target receipts) (.ok completion)
  | aborted {target : Target} (gone : after.upload? target.id = none)
      (uploads : SameUploadsBut target.id before after)
      (objects : SameObjects before after) :
      Confined before after (.abort target) (.ok ())
  | listed {target : Target} {receipts : List Receipt}
      (same : after = before) :
      Confined before after (.list target) (.ok receipts)

/-- The next id of a store that was served stands for no upload. -/
theorem IsServed.upload?_nextId {store : Store} (served : store.IsServed) :
    store.upload? store.nextId = none := by
  cases found : store.upload? store.nextId with
  | none => rfl
  | some active => exact absurd rfl (served.hasGiven found).ne_nextId

/-- No request changes more than it may. -/
theorem IsServed.confined {store : Store} (served : store.IsServed)
    (request : Request) :
    store.Confined (store.serve request).1 request
      (store.serve request).2 := by
  have new := served.upload?_nextId
  have comes := store.served_serve request
  generalize (store.serve request).1 = after at *
  generalize (store.serve request).2 = conclusion at *
  cases comes with
  | refused failure => exact .refused failure rfl
  | created location =>
      refine .created new ?_ fun _ => rfl
      intro other apart
      change (putUpload _ store.nextId _).upload? other = _
      exact (upload?_putUpload _ _ _ _).trans (if_neg apart)
  | @taken upload target number body found =>
      refine .taken ?_ ?_ fun _ => rfl
      · intro other apart
        rw [part?_putUpload, if_pos rfl, PartTable.find?_insert,
          if_neg apart, part?_of_upload? found]
      · intro other apart
        exact (upload?_putUpload _ _ _ _).trans (if_neg apart)
  | broken => exact .broken _ rfl
  | completed target receipts found =>
      refine .completed found ?_ ?_ ?_
      · rw [upload?_putObject, upload?_removeUpload, if_pos rfl]
      · intro other apart
        exact (upload?_removeUpload _ _ _).trans (if_neg apart)
      · intro location apart
        exact (object?_putObject _ _ _ _).trans (if_neg apart)
  | aborted target =>
      refine .aborted ?_ ?_ fun _ => rfl
      · rw [upload?_removeUpload, if_pos rfl]
      · intro other apart
        exact (upload?_removeUpload _ _ _).trans (if_neg apart)
  | listed => exact .listed rfl

end Store

/--
After any requests whatsoever, a request that fails or breaks off changes
nothing, and one that succeeds only what it names: a part or an abort its own
upload, a completion also the object of that upload, and a listing nothing.
An upload in progress outlasts any requests for others as it is.  And every
part that is held has a number between 1 and 10,000.
-/
theorem served_apart (names : NameSupply) (history : List Request) :
    let store := Store.serveAll { names } history
    (∀ request, store.Confined (store.serve request).1 request
      (store.serve request).2) ∧
      (∀ id requests, store.upload? id ≠ none →
        (∀ request ∈ requests, request.Spares id) →
          (store.serveAll requests).upload? id = store.upload? id) ∧
      (∀ id number, store.part? id number ≠ none →
        1 ≤ number.toNat ∧ number.toNat ≤ 10000) := by
  intro store
  have served := Store.isServed_serveAll names history
  refine ⟨served.confined, ?_, Store.isNumbered_serveAll names history⟩
  intro id requests active spare
  obtain ⟨upload, found⟩ := Option.ne_none_iff_exists'.mp active
  exact Store.upload?_serveAll_of_spares (served.hasGiven found) spare

namespace Store

/-- The object that two uploads are to become. -/
def rivalLocation : Location := ⟨⟨"bucket"⟩, ⟨"key"⟩⟩

/-- The uploads, by their numbers. -/
def rival (number : Nat) : Target :=
  ⟨idOf {} number, rivalLocation⟩

/-- Both uploads are created, and a part of the first is taken. -/
def rivals : List Request :=
  [.create rivalLocation, .create rivalLocation, .part (rival 1) ⟨1⟩ [1]]

/-- The second upload is sent and completed. -/
def overtaking : List Request :=
  [.part (rival 2) ⟨1⟩ [2],
    .complete (rival 2) [{ number := ⟨1⟩, tag := tagOf {} 2, size := 1 }]]

end Store

/-- The second upload becomes the object, and the first stays as it is. -/
theorem served_rivals :
    let store := Store.serveAll {} Store.rivals
    (store.serveAll Store.overtaking).object? Store.rivalLocation =
        some ⟨Store.tagOf {} 3, [2]⟩ ∧
      (store.serveAll Store.overtaking).upload? (Store.rival 1).id =
        store.upload? (Store.rival 1).id := by
  intro store
  obtain ⟨-, apart, -⟩ := served_apart (.counted "") Store.rivals
  have active : store.upload? (Store.rival 1).id ≠ none :=
    Option.isSome_iff_ne_none.mp rfl
  refine ⟨by with_unfolding_all rfl, apart _ _ active ?_⟩
  have other : (Store.rival 2).id ≠ (Store.rival 1).id := by decide
  intro request member
  simp only [Store.overtaking, List.mem_cons, List.not_mem_nil,
    or_false] at member
  rcases member with rfl | rfl
  · exact other
  · exact other

end Multipart
