import Multipart.Request
import Multipart.Text.Blank

/-!
# What the service replies

A reply is made for one kind of request and may meet another.  What stands
in the body of a reply is found by the request that it is made for and by no
other; the head of a reply can be read by every request; and an abort asks
for nothing but a reply.  The answer to a request is made from its reply.
-/

namespace Multipart

/-- A part as a page of a listing has it. -/
structure ListedPart where
  number : Option Int32 := none
  tag : Option String := none
  size : Option Int64 := none
  checksums : WireChecksums := {}
deriving DecidableEq

/-- A page of a listing. -/
structure ListedPage where
  parts : List ListedPart := []
  isTruncated : Bool := false
  nextMarker : Option String := none
deriving DecidableEq

/-- What the service replies, by the kind of request that it is made for. -/
inductive ServiceReply where
  /-- The body has the id of a new upload. -/
  | created (id : Option String)
  /-- The head has the tag and the checksums of a part. -/
  | stored (tag : Option String) (checksums : WireChecksums)
  /-- The body has the tag of an object. -/
  | completed (tag : Option String)
  /-- Nothing is said, as after an abort. -/
  | bare
  /-- The body has a page of a listing, if its entries can be read. -/
  | listed (page : Option ListedPage)
deriving DecidableEq

/-- Why a request has no reply that can be read. -/
inductive ServiceFault where
  /-- The request could not be made. -/
  | construction
  /-- The request did not get to the service. -/
  | dispatch
  /-- The service gave no reply, or none that is an answer. -/
  | service
deriving DecidableEq

/-- What is said of a fault. -/
def ServiceFault.message : ServiceFault → String
  | .construction => "failed to construct request"
  | .dispatch => "dispatch failure"
  | .service => "service error"

/-- A reply, or the reason why there is none. -/
abbrev Arrival := Except ServiceFault ServiceReply

/-- A request on the wire, with what arrived for it if anything did. -/
structure Passage where
  wire : WireRequest
  arrival? : Option Arrival

/-! ## Reading a reply -/

/-- An entry of a page, unless a number does not fit its word. -/
def ListedPart.ofNumbers? (number : Option Int) (tag : Option String)
    (size : Option Int) (checksums : WireChecksums) : Option ListedPart :=
  let entry : ListedPart :=
    { number := number.map Int32.ofInt
      tag
      size := size.map Int64.ofInt
      checksums }
  if entry.number.map Int32.toInt = number ∧
      entry.size.map Int64.toInt = size then
    some entry
  else
    none

/-- Where the next page of a listing begins, if there is one. -/
def ListedPage.next? (page : ListedPage) : Option String :=
  if page.isTruncated then page.nextMarker else none

namespace ServiceReply

/-- A reply to a part, from its head, where no field has blanks around it. -/
def ofHead (tag : Option String) (checksums : WireChecksums) :
    ServiceReply :=
  .stored (tag.map Text.trimBlank)
    { checksumCrc32 := checksums.checksumCrc32.map Text.trimBlank
      checksumCrc32c := checksums.checksumCrc32c.map Text.trimBlank
      checksumCrc64nvme := checksums.checksumCrc64nvme.map Text.trimBlank
      checksumSha1 := checksums.checksumSha1.map Text.trimBlank
      checksumSha256 := checksums.checksumSha256.map Text.trimBlank }

/-- A page of a listing; one entry that is not read spoils the page. -/
def ofEntries (entries : List (Option ListedPart)) (isTruncated : Bool)
    (nextMarker : Option String) : ServiceReply :=
  .listed ((entries.mapM id).map fun parts =>
    { parts, isTruncated, nextMarker })

/-- The id of a new upload, read from the body. -/
def newId : ServiceReply → Except ServiceFault (Option String)
  | .created id => .ok id
  | _ => .error .service

/-- The tag and the checksums of a part, where the head has them. -/
def partHead : ServiceReply → Option String × WireChecksums
  | .stored tag checksums => (tag, checksums)
  | _ => (none, {})

/-- The tag of an object, read from the body. -/
def objectTag : ServiceReply → Except ServiceFault (Option String)
  | .completed tag => .ok tag
  | _ => .error .service

/-- A page of a listing, read from the body. -/
def page : ServiceReply → Except ServiceFault ListedPage
  | .listed (some page) => .ok page
  | _ => .error .service

/-- Holds for a reply that has a body; any body will do for a session. -/
def opensSession : ServiceReply → Bool
  | .created _ => true
  | .completed _ => true
  | .listed _ => true
  | .stored _ _ => false
  | .bare => false

end ServiceReply

/-! ## Answering a request -/

/-- What a value has to be for an answer to be made from it. -/
def demand {α : Type} (requirement : Requirement) :
    Option α → Except Failure α
  | some value => .ok value
  | none => .error (.missing requirement)

/-- The receipt of an entry; a size that is absent or negative is zero. -/
def ListedPart.receipt (part : ListedPart) : Except Failure Receipt :=
  let number? := part.number.filter fun number => 0 ≤ number
  match demand .listedNumber number?, demand .listedTag part.tag with
  | .error failure, _ => .error failure
  | _, .error failure => .error failure
  | .ok number, .ok tag =>
    let size := part.size.getD 0
    .ok
      { number := PartNumber.ofNat number.toNatClampNeg
        tag := ⟨tag⟩
        checksums := part.checksums
        size := UInt64.ofNat size.toNatClampNeg }

namespace Arrival

/-- Where another page follows the one that arrived, if there is one. -/
def next? : Arrival → Option String
  | .ok (.listed (some page)) => page.next?
  | _ => none

/-- Read what arrived, and make the answer from it. -/
def answer {α β : Type} (arrival : Arrival) (wrap : String → Failure)
    (read : ServiceReply → Except ServiceFault β)
    (make : β → Except Failure α) : Except Failure α :=
  match arrival.bind read with
  | .error fault => .error (wrap fault.message)
  | .ok content => make content

end Arrival

/-- The answer to a request; to a listing it is that of one page. -/
def Request.receive : (request : Request) → Arrival →
    Except Failure request.Answer
  | .create location, arrival =>
    arrival.answer Failure.create ServiceReply.newId fun id? =>
      match demand .assignedId id? with
      | .error failure => .error failure
      | .ok id => .ok ({ id := ⟨id⟩, location } : Target)
  | .part target number body, arrival =>
    arrival.answer (Failure.uploadPart target.id number)
      (fun reply => .ok reply.partHead) fun (tag?, checksums) =>
        match demand .partTag tag? with
        | .error failure => .error failure
        | .ok tag =>
          .ok
            { number
              tag := ⟨tag⟩
              checksums
              size := UInt64.ofNat body.length }
  | .complete target _, arrival =>
    arrival.answer (Failure.complete target.id) ServiceReply.objectTag
      fun tag? =>
        match demand .objectTag tag? with
        | .error failure => .error failure
        | .ok tag =>
          .ok ({ location := target.location, tag := ⟨tag⟩ } : Completion)
  | .abort target, arrival =>
    arrival.answer (Failure.abort target.id) (fun _ => .ok ()) .ok
  | .list target, arrival =>
    arrival.answer (Failure.listParts target.id) ServiceReply.page
      fun page => page.parts.mapM ListedPart.receipt

end Multipart
