/-!
# Where an object lives

An object is addressed by its bucket and its key within the bucket, written
`s3://bucket/key`.  A location built from a pair is not checked; a location
read from text always has a bucket and a key.
-/

namespace Multipart

/-- The bucket that holds an object. -/
structure Bucket where
  text : String
deriving DecidableEq, Inhabited

/-- The name of an object within its bucket. -/
structure Key where
  text : String
deriving DecidableEq, Inhabited

/-- Drop one slash from the end of a text, if it has one there. -/
def dropFinalSlash (text : String) : String :=
  match text.toList.reverse with
  | '/' :: kept => String.ofList kept.reverse
  | _ => text

/-- A bucket named by a text, without one slash at its end. -/
def Bucket.ofText (text : String) : Bucket :=
  ⟨dropFinalSlash text⟩

/-- The address of an object. -/
structure Location where
  bucket : Bucket
  key : Key
deriving DecidableEq, Inhabited

namespace Location

/-- The location of a bucket and a key; nothing is checked. -/
def ofPair (bucket key : String) : Location :=
  { bucket := Bucket.ofText bucket, key := ⟨key⟩ }

/-- Holds when the bucket or the key is missing. -/
def isEmpty (location : Location) : Bool :=
  location.bucket.text.isEmpty || location.key.text.isEmpty

/-- The written form `s3://bucket/key`. -/
def display (location : Location) : String :=
  "s3://" ++ location.bucket.text ++ "/" ++ location.key.text

/-- Why a text names no location. -/
inductive Fault where
  /-- The text does not begin with the scheme. -/
  | scheme
  /-- No slash ends the bucket. -/
  | objectKey
  /-- The bucket or the key is empty. -/
  | bucketAndKey
deriving DecidableEq

/-- What follows the scheme in a text that begins with it. -/
def afterScheme? : List Char → Option (List Char)
  | 's' :: '3' :: ':' :: '/' :: '/' :: rest => some rest
  | _ => none

/--
Read a location.  The bucket ends at the first slash after the scheme, and
the slashes that follow belong to neither the bucket nor the key.
-/
def parse (text : String) : Except Fault Location :=
  match afterScheme? text.toList with
  | none => .error .scheme
  | some rest =>
    match rest.dropWhile (· ≠ '/') with
    | [] => .error .objectKey
    | _ :: path =>
      let bucket := rest.takeWhile (· ≠ '/')
      let key := path.dropWhile (· = '/')
      let location :=
        ofPair (String.ofList bucket) (String.ofList key)
      if location.isEmpty then .error .bucketAndKey else .ok location

end Location

end Multipart
