import Multipart.Endpoint.ResourceName
import Multipart.Location
import Multipart.Text.Blank

/-!
# The way to an object

Before a request goes out, the client finds the endpoint that serves the
bucket.  An ordinary bucket is always served.  A name that begins with `arn:`
or has one of the suffixes kept for special buckets stands for a resource of
another kind, and leads to an endpoint only if it is well formed.
-/

namespace Multipart

/-- How the client gets to the endpoint of a bucket. -/
inductive Route where
  /-- A request goes to the endpoint. -/
  | direct
  /-- A session has to be opened at the endpoint before. -/
  | session
  /-- There is no endpoint. -/
  | nowhere
deriving DecidableEq

/-- The route to a bucket of one zone, or to an access point of one. -/
def zonalRoute (bucket : List Char) : Route :=
  if isHostBucket bucket then .session else .nowhere

/--
The route to a bucket of an outpost.  A letter of its name tells the kind of
hardware, and the label after it the outpost.
-/
def outpostRoute (bucket : List Char) : Route :=
  let hardware := fromEnd bucket 49 50
  if isHostLabel (fromEnd bucket 32 49) && isHostBucket bucket &&
      (hardware = ['e'] || hardware = ['o']) then
    .direct
  else
    .nowhere

/-- The route to a bucket, which its name tells. -/
def Bucket.route (bucket : Bucket) : Route :=
  let name := bucket.text.toList
  if endsIn name "--x-s3" || endsIn name "--xa-s3" then
    zonalRoute name
  else if endsIn name "--op-s3" && 50 ≤ name.length then
    outpostRoute name
  else
    match ResourceName.parse? name with
    | some resource => if resource.isServed then .direct else .nowhere
    | none =>
      if name.take 4 = "arn:".toList && name.all (·.toNat < 128) then
        .nowhere
      else
        .direct

/-- Holds when the bucket or the key consists of blanks. -/
def Location.isBlank (location : Location) : Bool :=
  location.bucket.text.toList.all Text.isBlank ||
    location.key.text.toList.all Text.isBlank

end Multipart
