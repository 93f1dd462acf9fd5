import Multipart.Failure

/-!
# The requests of a multipart upload

Five requests make up the interface of a store.  Each has an answer of its
own type, and each is checked before it is sent.  On the wire a request
becomes a record of plain fields in which part numbers are signed.
-/

namespace Multipart

/-- The bytes of a part or an object. -/
abbrev Bytes := List UInt8

/-- An upload in progress: its id and the object it is to become. -/
structure Target where
  id : UploadId
  location : Location
deriving DecidableEq, Inhabited

/-- An object that an upload has become. -/
structure Completion where
  location : Location
  tag : EntityTag
deriving DecidableEq, Inhabited

/-- What can be asked of a store. -/
inductive Request where
  | create (location : Location)
  | part (target : Target) (number : PartNumber) (body : Bytes)
  | complete (target : Target) (receipts : List Receipt)
  | abort (target : Target)
  | list (target : Target)
deriving DecidableEq

namespace Request

/-- The type of the answer to a request. -/
def Answer : Request → Type
  | .create _ => Target
  | .part _ _ _ => Receipt
  | .complete _ _ => Completion
  | .abort _ => Unit
  | .list _ => List Receipt

/--
The type of what can break off a request.  Only the one that completes an
upload ever breaks off.
-/
def Breakage : Request → Type
  | .complete _ _ => Panic
  | _ => Empty

/-- What serving a request comes to. -/
inductive Conclusion (request : Request) where
  | ok (answer : request.Answer)
  | error (failure : Failure)
  | panicked (panic : request.Breakage)

/-- An answer or a failure as what serving a request comes to. -/
def Conclusion.ofExcept {request : Request} :
    Except Failure request.Answer → Conclusion request
  | .ok answer => .ok answer
  | .error failure => .error failure

/-- Refuse a request whose upload or object has no name. -/
def checkTarget (operation : Operation) (target : Target) :
    Except Failure Unit :=
  if target.id.text.isEmpty || target.location.isEmpty then
    .error (.missing (.target operation))
  else
    .ok ()

/-- What a request has to satisfy before it is sent. -/
def check : Request → Except Failure Unit
  | .create location =>
    if location.isEmpty then .error (.missing .createTarget) else .ok ()
  | .part target number _ => do
    checkTarget .part target
    if number.value = 0 ∨ Plan.maxPartCount < number.value then
      throw (.partNumber number)
  | .complete target receipts => do
    checkTarget .complete target
    if receipts.isEmpty then throw (.missing .completedParts)
  | .abort target => checkTarget .abort target
  | .list target => checkTarget .list target

end Request

/-! ## The wire form -/

/-- The checksums of a part under the names that the service has for them. -/
structure WireChecksums where
  checksumCrc32 : Option String := none
  checksumCrc32c : Option String := none
  checksumCrc64nvme : Option String := none
  checksumSha1 : Option String := none
  checksumSha256 : Option String := none
deriving DecidableEq

namespace Checksums

/-- The checksums that are told to the service. -/
def toWire (checksums : Checksums) : WireChecksums where
  checksumCrc32 := checksums.crc32
  checksumCrc32c := checksums.crc32c
  checksumCrc64nvme := checksums.crc64nvme
  checksumSha1 := checksums.sha1
  checksumSha256 := checksums.sha256

/-- The checksums that the service has told. -/
def ofWire (checksums : WireChecksums) : Checksums where
  crc32 := checksums.checksumCrc32
  crc32c := checksums.checksumCrc32c
  crc64nvme := checksums.checksumCrc64nvme
  sha1 := checksums.checksumSha1
  sha256 := checksums.checksumSha256

instance : Coe Checksums WireChecksums := ⟨toWire⟩

instance : Coe WireChecksums Checksums := ⟨ofWire⟩

end Checksums

/-- A part as a complete request lists it. -/
structure WirePart where
  number : Nat
  tag : EntityTag
  checksums : WireChecksums
deriving DecidableEq

/-- The body of a part request, and the length that is told of it. -/
structure WireBody where
  bytes : Bytes
  length : Nat
deriving DecidableEq

instance : Coe WireBody Bytes := ⟨WireBody.bytes⟩

/-- A request as the service sees it. -/
inductive WireRequest where
  | create (location : Location)
  | part (target : Target) (number : Nat) (body : WireBody)
  | complete (target : Target) (parts : List WirePart)
  | abort (target : Target)
  | list (target : Target) (marker : Option String)
deriving DecidableEq

namespace WireRequest

/-- The object that a request on the wire is about. -/
def location : WireRequest → Location
  | .create location => location
  | .part target _ _ => target.location
  | .complete target _ => target.location
  | .abort target => target.location
  | .list target _ => target.location

/-- The upload that a request on the wire names, unless it asks for one. -/
def target? : WireRequest → Option Target
  | .create _ => none
  | .part target _ _ => some target
  | .complete target _ => some target
  | .abort target => some target
  | .list target _ => some target

end WireRequest

/-- The number of a part as the service's signed field carries it. -/
def PartNumber.toWire (number : PartNumber) : Except Failure Nat :=
  if number.toNat ≤ PartNumber.wireLimit then .ok number.toNat
  else .error (.partNumber number)

/-- A receipt as a complete request lists it. -/
def Receipt.toWire (receipt : Receipt) : Except Failure WirePart :=
  match receipt.number.toWire with
  | .error failure => .error failure
  | .ok number =>
    .ok { number, tag := receipt.tag, checksums := receipt.checksums }

namespace Request

/-- The wire form of a request; a listing starts without a marker. -/
def toWire : Request → Except Failure WireRequest
  | .create location => .ok (.create location)
  | .part target number body =>
    match number.toWire with
    | .error failure => .error failure
    | .ok number =>
      .ok (.part target number { bytes := body, length := body.length })
  | .complete target receipts =>
    match receipts.mapM Receipt.toWire with
    | .error failure => .error failure
    | .ok parts => .ok (.complete target parts)
  | .abort target => .ok (.abort target)
  | .list target => .ok (.list target none)

/-- The wire form of a request that was found to be in order. -/
def prepare (request : Request) : Except Failure WireRequest :=
  match request.check with
  | .error failure => .error failure
  | .ok () => request.toWire

end Request

end Multipart
