import Multipart.Plan
import Multipart.Location
import Multipart.Json.Problem
import Multipart.Text.Field

/-!
# Why an upload or a request fails

A failure is its cause together with what its message names.  The category
and the message of every cause are given here once.
-/

namespace Multipart

/-- The categories of failures. -/
inductive Category where
  | config
  | content
  | paused
  | resume
  | service
  | unknown
deriving DecidableEq

/-- The word for a category. -/
def Category.display : Category → String
  | .config => "config"
  | .content => "content"
  | .paused => "paused"
  | .resume => "resume"
  | .service => "sdk"
  | .unknown => "unknown"

/-- The requests that name an upload in progress. -/
inductive Operation where
  | part
  | complete
  | abort
  | list
deriving DecidableEq

/-- The name under which a request goes in messages. -/
def Operation.requestName : Operation → String
  | .part => "UploadPartRequest"
  | .complete => "CompleteRequest"
  | .abort => "AbortRequest"
  | .list => "ListPartsRequest"

/-- What a value has to have and may lack. -/
inductive Requirement where
  /-- A written location has a scheme, a bucket and a key. -/
  | location (fault : Location.Fault)
  /-- A request to create an upload names an object. -/
  | createTarget
  /-- Any other request names an upload and an object. -/
  | target (operation : Operation)
  /-- A request to complete an upload lists parts. -/
  | completedParts
  /-- The answer to a create request assigns an id. -/
  | assignedId
  /-- The answer to a part has its entity tag. -/
  | partTag
  /-- The answer to a complete request has the object's entity tag. -/
  | objectTag
  /-- An entry of a listing has a part number. -/
  | listedNumber
  /-- An entry of a listing has an entity tag. -/
  | listedTag
deriving DecidableEq

/-- What lacks the requirement, and what it lacks. -/
def Requirement.words : Requirement → String × String
  | .location .scheme => ("ObjectUri", "s3:// scheme")
  | .location .objectKey => ("ObjectUri", "object key")
  | .location .bucketAndKey => ("ObjectUri", "bucket and key")
  | .createTarget => ("CreateRequest", "empty object uri")
  | .target operation =>
    (operation.requestName, "empty upload id and/or uri")
  | .completedParts => ("CompleteRequest", "completed parts")
  | .assignedId => ("CreateResponse", "upload_id")
  | .partTag => ("UploadResponse", "e_tag")
  | .objectTag => ("CompleteResponse", "e_tag")
  | .listedNumber => ("Part", "part_number")
  | .listedTag => ("Part", "e_tag")

/-- The cause of a failure. -/
inductive Failure where
  /-- Something required is missing. -/
  | missing (requirement : Requirement)
  /-- The number is no number of a part. -/
  | partNumber (number : PartNumber)
  /-- The content needs more parts than an upload may have. -/
  | partCount (count : UInt32) (partSize : UInt64)
  /-- The source gave another number of bytes than it declared. -/
  | contentLength (declared produced : UInt64)
  /-- The source itself failed. -/
  | content (reason : String)
  /-- The upload was paused. -/
  | paused (id : UploadId)
  /-- A token was made for content of another number of parts. -/
  | tokenMismatch (id : UploadId) (expected actual : UInt32)
  /-- The text of a token cannot be read. -/
  | token (problem : Json.Problem)
  /-- The service did not create the upload. -/
  | create (reason : String)
  /-- The service did not take a part. -/
  | uploadPart (id : UploadId) (number : PartNumber) (reason : String)
  /-- The service did not complete the upload. -/
  | complete (id : UploadId) (reason : String)
  /-- The service did not abort the upload. -/
  | abort (id : UploadId) (reason : String)
  /-- The service did not list the parts. -/
  | listParts (id : UploadId) (reason : String)
  /-- A failure stated with its category. -/
  | stated (category : Category) (message : String)
  /-- A failure from elsewhere, known by its text alone. -/
  | foreign (text : String)
deriving DecidableEq

namespace Failure

/-- The category a cause belongs to. -/
def category : Failure → Category
  | .create _ => .service
  | .uploadPart _ _ _ => .service
  | .complete _ _ => .service
  | .abort _ _ => .service
  | .listParts _ _ => .service
  | .missing _ => .config
  | .partNumber _ => .config
  | .partCount _ _ => .config
  | .contentLength _ _ => .content
  | .content _ => .content
  | .paused _ => .paused
  | .tokenMismatch _ _ _ => .resume
  | .token _ => .resume
  | .foreign _ => .unknown
  | .stated category _ => category

/-- Holds for a failure that says the upload was paused. -/
def isPaused (failure : Failure) : Bool :=
  failure.category = .paused

/-- The sentence that tells the cause. -/
def message : Failure → String
  | .missing requirement =>
    let (subject, field) := requirement.words
    subject ++ " missing required field: " ++ field
  | .partNumber number =>
    number.display ++
      " is outside the range of part numbers allowed in an upload"
  | .partCount count partSize =>
    "content needs " ++ toString count.toNat ++ " parts of " ++
      toString partSize.toNat ++ " bytes, more than an upload allows"
  | .contentLength declared produced =>
    "content source produced " ++ toString produced.toNat ++
      " bytes but declared " ++ toString declared.toNat
  | .content reason => "content source failed: " ++ reason
  | .paused id => "upload " ++ id.text ++ " was paused"
  | .tokenMismatch id expected actual =>
    "resume token for upload " ++ id.text ++ " expects " ++
      toString expected.toNat ++ " parts, content has " ++
      toString actual.toNat
  | .token problem =>
    "invalid resume token: " ++ (problem.message?).getD ""
  | .create reason => "creating multipart upload failed: " ++ reason
  | .uploadPart id number reason =>
    "uploading " ++ number.display ++ " to upload " ++ id.text ++
      " failed: " ++ reason
  | .complete id reason =>
    "completing upload " ++ id.text ++ " failed: " ++ reason
  | .abort id reason => "aborting upload " ++ id.text ++ " failed: " ++ reason
  | .listParts id reason =>
    "listing parts of upload " ++ id.text ++ " failed: " ++ reason
  | .stated category message => category.display ++ " error: " ++ message
  | .foreign text => text

/-- A message set in a field; only a foreign text takes its shape from it. -/
def set (field : Text.Field) : Failure → String
  | .foreign text => field.set text
  | failure => failure.message

end Failure

end Multipart
