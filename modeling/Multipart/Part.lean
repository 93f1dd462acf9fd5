import Multipart.Word

/-!
# Parts of an upload

A part is known to the store by its number, and the store answers each part
it takes with a receipt: the number, the entity tag it gave the part, the
checksums it computed and the size it counted.  Receipts are what completes
an upload, so they are kept exactly as they came.
-/

namespace Multipart

/-- The number a part has within its upload, counted from one. -/
structure PartNumber where
  value : UInt32
deriving DecidableEq

namespace PartNumber

/-- The first part of an upload. -/
def first : PartNumber := ⟨1⟩

instance : Inhabited PartNumber := ⟨first⟩

/-- The number whose value is a natural number, taken modulo `2 ^ 32`. -/
def ofNat (value : Nat) : PartNumber := ⟨UInt32.ofNat value⟩

def toNat (number : PartNumber) : Nat := number.value.toNat

/-- The number after this one. -/
def next (number : PartNumber) : PartNumber := ⟨number.value + 1⟩

/-- Parts are shown with their number after an underscore. -/
def display (number : PartNumber) : String :=
  "part_" ++ toString number.toNat

/-- The largest number the service's signed field can carry. -/
def wireLimit : Nat := 2147483647

@[simp]
theorem ofNat_toNat (number : PartNumber) :
    ofNat number.toNat = number := by
  simp [ofNat, toNat]

theorem toNat_inj {left right : PartNumber} :
    left.toNat = right.toNat ↔ left = right := by
  constructor
  · intro same
    rw [← ofNat_toNat left, same, ofNat_toNat]
  · rintro rfl
    rfl

end PartNumber

/-- The name a store assigns to one upload while it is in progress. -/
structure UploadId where
  text : String
deriving DecidableEq, Inhabited

/-- The mark a store gives to the bytes it took for a part or an object. -/
structure EntityTag where
  text : String
deriving DecidableEq, Inhabited

/-- The five integrity checksums a store may report for a part. -/
structure Checksums where
  crc32 : Option String := none
  crc32c : Option String := none
  crc64nvme : Option String := none
  sha1 : Option String := none
  sha256 : Option String := none
deriving DecidableEq, Inhabited

namespace Checksums

/-- Each checksum beside the name it goes by, in the fixed order. -/
def entries (checksums : Checksums) : List (String × Option String) :=
  [("crc32", checksums.crc32),
    ("crc32c", checksums.crc32c),
    ("crc64nvme", checksums.crc64nvme),
    ("sha1", checksums.sha1),
    ("sha256", checksums.sha256)]

/-- Holds when no checksum was reported. -/
def isEmpty (checksums : Checksums) : Bool :=
  checksums.entries.all fun entry => entry.2.isNone

end Checksums

/-- The store's answer to one part it took. -/
structure Receipt where
  number : PartNumber
  tag : EntityTag
  checksums : Checksums := {}
  size : UInt64
deriving DecidableEq, Inhabited

namespace Receipt

/-- The sum of the sizes, which breaks off when it is larger than any word. -/
def totalSize (receipts : List Receipt) : Except Panic UInt64 :=
  receipts.foldlM (fun total receipt => Word.add total receipt.size.toNat) 0

/--
The receipts in ascending order of their numbers; receipts with one number
keep the order they had.
-/
def sorted (receipts : List Receipt) : List Receipt :=
  receipts.mergeSort fun left right => left.number.value ≤ right.number.value

/-- The last receipt a list has for a number. -/
def last? (receipts : List Receipt) (number : PartNumber) : Option Receipt :=
  receipts.reverse.find? fun receipt => receipt.number = number

end Receipt

end Multipart
