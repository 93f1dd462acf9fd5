import Multipart.Request

/-!
# Descriptions for the developer

What is opaque in an upload is described by its type: a client by what it can
do, a request in flight by what it will answer, and content by its length.
-/

namespace Multipart.Describe

/-- A description that stands for something that cannot be shown. -/
def hidden (text : String) : String :=
  Text.quoted text

/-- The description of a client. -/
def client : String :=
  "UploadClient \x7b inner: " ++ hidden "SendRequest" ++ " \x7d"

/-- The description of content of a length. -/
def content (length : Nat) : String :=
  "ContentSource \x7b length: " ++ toString length ++ ", body: " ++
    hidden "Stream<Item = Result<Bytes>>" ++ " \x7d"

/-- The name of a request in flight, and what it answers in the end. -/
def inFlight (name answer : String) : String :=
  name ++ "(" ++
    hidden ("Future<Output = Result<" ++ answer ++ ">>") ++ ")"

/-- The description of a create request in flight. -/
def create : String := inFlight "SendCreateUpload" "UploadData"

/-- The description of any other request in flight. -/
def ofOperation : Operation → String
  | .part => inFlight "SendUploadPart" "CompletedPart"
  | .complete => inFlight "SendCompleteUpload" "CompletedUpload"
  | .abort => inFlight "SendAbortUpload" "()"
  | .list => inFlight "SendListParts" "CompletedParts"

end Multipart.Describe
