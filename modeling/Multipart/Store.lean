import Multipart.PartTable
import Multipart.Request

/-!
# An object store in memory

The store keeps the uploads in progress with the parts it took for them, and
the objects that completed uploads became.  A request either answers with a
failure and leaves the store as it was, or changes the one upload it names.
The names it hands out come from a supply that has no name twice.
-/

namespace Multipart

/-- A part the store holds. -/
structure StoredPart where
  tag : EntityTag
  body : Bytes
deriving DecidableEq

/-- An upload in progress and the parts taken for it. -/
structure ActiveUpload where
  location : Location
  parts : PartTable StoredPart := .empty

/-- An object that was completed. -/
structure StoredObject where
  tag : EntityTag
  body : Bytes
deriving DecidableEq

/-! ## Names -/

/-- Where the ids and tags of a store come from, in their order. -/
structure NameSupply where
  id : Nat → UploadId
  tag : Nat → EntityTag
  /-- No id is supplied twice. -/
  id_injective : ∀ {left right}, id left = id right → left = right
  /-- No tag is supplied twice. -/
  tag_injective : ∀ {left right}, tag left = tag right → left = right
  id_text_ne : ∀ number, (id number).text ≠ ""

namespace NameSupply

/-- What an id is called, before its number. -/
def idWord : String := "upload-"

/-- What a tag is called, before its number. -/
def tagWord : String := "etag-"

/-- A word with a number in decimal digits. -/
def numbered (word : String) (number : Nat) : String :=
  word ++ String.ofList (Nat.toDigits 10 number)

/-- Names that differ in their numbers are not the same. -/
theorem numbered_inj {mark word : String} {left right : Nat}
    (same : mark ++ numbered word left = mark ++ numbered word right) :
    left = right := by
  have digits : Nat.toDigits 10 left = Nat.toDigits 10 right := by
    have texts := congrArg String.toList same
    simpa [numbered] using texts
  rw [← Nat.ofDigitChars_ten_toDigits (n := left), digits,
    Nat.ofDigitChars_ten_toDigits]

/-- The supply that counts, and begins every name with a mark. -/
def counted (mark : String) : NameSupply where
  id number := ⟨mark ++ numbered idWord number⟩
  tag number := ⟨mark ++ numbered tagWord number⟩
  id_injective same := numbered_inj (congrArg UploadId.text same)
  tag_injective same := numbered_inj (congrArg EntityTag.text same)
  id_text_ne number empty := by
    have letters := congrArg String.toList empty
    simp [numbered, idWord] at letters

end NameSupply

/-! ## The store -/

/-- The uploads in progress, the objects, and how many names were given. -/
structure Store where
  /-- Where the names come from that the store gives. -/
  names : NameSupply := .counted ""
  uploads : List (UploadId × ActiveUpload) := []
  objects : List (Location × StoredObject) := []
  idsGiven : Nat := 0
  tagsGiven : Nat := 0

namespace Store

/-! ## Looking things up -/

/-- The upload in progress under an id. -/
def upload? (store : Store) (id : UploadId) : Option ActiveUpload :=
  (store.uploads.find? fun entry => entry.1 = id).map (·.2)

/-- The object at a location. -/
def object? (store : Store) (location : Location) : Option StoredObject :=
  (store.objects.find? fun entry => entry.1 = location).map (·.2)

/-- The numbers of the parts held for an upload in progress. -/
def partNumbers? (store : Store) (id : UploadId) :
    Option (List PartNumber) :=
  (store.upload? id).map (·.parts.numbers)

/-! ## Changing one entry -/

/-- The store in which an id stands for the given upload. -/
def putUpload (store : Store) (id : UploadId) (upload : ActiveUpload) :
    Store :=
  { store with
    uploads :=
      (id, upload) :: store.uploads.filter fun entry => entry.1 ≠ id }

/-- The store in which an id stands for no upload. -/
def removeUpload (store : Store) (id : UploadId) : Store :=
  { store with uploads := store.uploads.filter fun entry => entry.1 ≠ id }

/-- The store with an object at a location, in place of an earlier one. -/
def putObject (store : Store) (location : Location)
    (object : StoredObject) : Store :=
  { store with
    objects :=
      (location, object) ::
        store.objects.filter fun entry => entry.1 ≠ location }

@[simp]
theorem upload?_putUpload
    (store : Store) (id : UploadId) (upload : ActiveUpload)
    (other : UploadId) :
    (store.putUpload id upload).upload? other =
      if other = id then some upload else store.upload? other := by
  unfold upload? putUpload
  simp only [List.find?_cons, List.find?_filter]
  grind

@[simp]
theorem upload?_removeUpload (store : Store) (id other : UploadId) :
    (store.removeUpload id).upload? other =
      if other = id then none else store.upload? other := by
  unfold upload? removeUpload
  simp only [List.find?_filter]
  grind

@[simp]
theorem upload?_putObject
    (store : Store) (location : Location) (object : StoredObject)
    (id : UploadId) :
    (store.putObject location object).upload? id = store.upload? id :=
  rfl

@[simp]
theorem object?_putUpload
    (store : Store) (id : UploadId) (upload : ActiveUpload)
    (location : Location) :
    (store.putUpload id upload).object? location =
      store.object? location :=
  rfl

@[simp]
theorem object?_removeUpload
    (store : Store) (id : UploadId) (location : Location) :
    (store.removeUpload id).object? location =
      store.object? location :=
  rfl

@[simp]
theorem object?_putObject
    (store : Store) (location : Location) (object : StoredObject)
    (other : Location) :
    (store.putObject location object).object? other =
      if other = location then some object
      else store.object? other := by
  unfold object? putObject
  simp only [List.find?_cons, List.find?_filter]
  grind

/-! ## Giving names -/

/-- The id that the store gives as the one of a number. -/
def idOf (store : Store) (number : Nat) : UploadId :=
  store.names.id number

/-- The tag that the store gives as the one of a number. -/
def tagOf (store : Store) (number : Nat) : EntityTag :=
  store.names.tag number

/-- The id the store gives next. -/
def nextId (store : Store) : UploadId := store.idOf (store.idsGiven + 1)

/-- The tag the store gives next. -/
def nextTag (store : Store) : EntityTag := store.tagOf (store.tagsGiven + 1)

/-! ## Serving requests -/

/-- The failure of a request for an upload that is not in progress. -/
def noSuchUpload : Failure := .stated .service "no such upload"

/-- Holds when every number is larger than the one before it. -/
def isAscending : List Receipt → Bool
  | first :: second :: receipts =>
    first.number.value < second.number.value &&
      isAscending (second :: receipts)
  | _ => true

/--
The bytes of the listed parts one after another.  Every part listed has to be
held, with the tag it was last given.
-/
def joinBodies (parts : PartTable StoredPart) :
    List Receipt → Except Failure Bytes
  | [] => .ok []
  | receipt :: receipts =>
    match parts.find? receipt.number with
    | none => .error (.stated .service "invalid part")
    | some part =>
      if part.tag = receipt.tag then
        match joinBodies parts receipts with
        | .error failure => .error failure
        | .ok body => .ok (part.body ++ body)
      else
        .error (.stated .service "entity tag mismatch")

/-- Begin an upload under a new id. -/
def create (store : Store) (location : Location) : Store × Target :=
  let id := store.nextId
  let store := { store with idsGiven := store.idsGiven + 1 }
  (store.putUpload id { location }, { id, location })

/-- Take a part, in place of an earlier one of its number. -/
def takePart (store : Store) (id : UploadId) (number : PartNumber)
    (body : Bytes) : Store × Except Failure Receipt :=
  match store.upload? id with
  | none => (store, .error noSuchUpload)
  | some upload =>
    let tag := store.nextTag
    let store := { store with tagsGiven := store.tagsGiven + 1 }
    let parts := upload.parts.insert number { tag, body }
    (store.putUpload id { upload with parts },
      .ok { number, tag, size := UInt64.ofNat body.length })

/-- The most bytes that can be asked for at once; so many are always there. -/
def maxCapacity : Nat := 9223372036854775807

/-- Ask for the memory that the listed parts say they need. -/
def reserve (receipts : List Receipt) : Except Panic Unit :=
  match Receipt.totalSize receipts with
  | .error panic => .error panic
  | .ok total =>
    if total.toNat ≤ maxCapacity then .ok () else .error .capacity

/--
Turn an upload into the object its listed parts make up.  Memory is asked for
by the sizes that are listed, before any part is looked at.
-/
def complete (store : Store) (target : Target) (receipts : List Receipt) :
    Store × Request.Conclusion (.complete target receipts) :=
  match store.upload? target.id with
  | none => (store, .error noSuchUpload)
  | some upload =>
    if isAscending receipts then
      match reserve receipts with
      | .error panic => (store, .panicked panic)
      | .ok () =>
        match joinBodies upload.parts receipts with
        | .error failure => (store, .error failure)
        | .ok body =>
          let tag := store.nextTag
          let store := { store with tagsGiven := store.tagsGiven + 1 }
          let object : StoredObject := { tag, body }
          ((store.removeUpload target.id).putObject upload.location object,
            .ok ({ location := upload.location, tag } : Completion))
    else
      (store,
        .error (.stated .service "parts are not in ascending order"))

/-- Give up an upload and the parts held for it. -/
def abort (store : Store) (id : UploadId) : Store × Except Failure Unit :=
  match store.upload? id with
  | none => (store, .error noSuchUpload)
  | some _ => (store.removeUpload id, .ok ())

/-- The receipts of the parts held for an upload, in ascending order. -/
def list (store : Store) (id : UploadId) :
    Except Failure (List Receipt) :=
  match store.upload? id with
  | none => .error noSuchUpload
  | some upload =>
    .ok (upload.parts.toList.map fun (number, part) =>
      { number, tag := part.tag, size := UInt64.ofNat part.body.length })

/-- Check a request and serve it. -/
def serve (store : Store) (request : Request) :
    Store × request.Conclusion :=
  match request.check with
  | .error failure => (store, .error failure)
  | .ok () =>
    match request with
    | .create location =>
      let (store, target) := store.create location
      (store, .ok target)
    | .part target number body =>
      let (store, receipt) := store.takePart target.id number body
      (store, .ofExcept receipt)
    | .complete target receipts => store.complete target receipts
    | .abort target =>
      let (store, answer) := store.abort target.id
      (store, .ofExcept answer)
    | .list target => (store, .ofExcept (store.list target.id))

end Store

end Multipart
