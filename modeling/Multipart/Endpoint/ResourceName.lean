import Multipart.Endpoint.Label

/-!
# Resource names

In place of a bucket a request can name a resource that stands before it.
Such a name has six fields, with colons between them, and the last one has
parts of its own.
-/

namespace Multipart

/-- A name that says which service holds a resource, and where. -/
structure ResourceName where
  partition : List Char
  service : List Char
  region : List Char
  account : List Char
  /-- The parts of the resource, which colons and slashes separate. -/
  resource : List (List Char)

namespace ResourceName

/-- Read a resource name; all fields but region and account are needed. -/
def parse? (text : List Char) : Option ResourceName :=
  match text.splitOn ':' with
  | scheme :: partition :: service :: region :: account :: rest@(_ :: _) =>
    let resource := [':'].intercalate rest
    if scheme = "arn".toList ∧ partition ≠ [] ∧ service ≠ [] ∧
        resource ≠ [] then
      some
        { partition, service, region, account
          resource :=
            resource.splitOnP fun character =>
              character = ':' || character = '/' }
    else
      none
  | _ => none

/-- What the names of regions outside the common partition begin with. -/
def foreignRegions : List String :=
  ["cn", "us-gov", "us-iso", "us-isob", "us-isof", "eu-isoe", "eusc-de"]

/-- The regions outside the common partition that stand for a whole one. -/
def foreignGlobals : List String :=
  ["aws-cn-global", "aws-us-gov-global", "aws-iso-global",
    "aws-iso-b-global", "aws-iso-e-global", "aws-iso-f-global"]

/-- Holds for a region outside the common partition. -/
def isForeign (region : List Char) : Bool :=
  let isWord (word : List Char) : Bool :=
    !word.isEmpty && word.all fun character =>
      character.isAlphanum || character = '_'
  let isNumber (number : List Char) : Bool :=
    !number.isEmpty && number.all Char.isDigit
  foreignGlobals.any (·.toList = region) ||
    match (region.splitOn '-').reverse with
    | number :: place :: area =>
      isNumber number && isWord place &&
        foreignRegions.any fun foreign =>
          foreign.toList = ['-'].intercalate area.reverse
    | _ => false

/-- Holds if the resource is in a region of the common partition. -/
def isPlaced (name : ResourceName) : Bool :=
  !name.region.isEmpty && isHostName name.region && !isForeign name.region

/--
Holds if requests for the resource lead to an endpoint.  It is an access
point of a region, of several regions, of an object function or of an
outpost.
-/
def isServed (name : ResourceName) : Bool :=
  let accessPoint := "accesspoint".toList
  match name.resource with
  | [] => false
  | kind :: resource =>
    if kind = [] then
      false
    else if name.service = "s3-object-lambda".toList then
      match resource with
      | [point] =>
        kind = accessPoint && name.isPlaced && isHostLabel name.account &&
          isHostLabel point
      | _ => false
    else if kind = accessPoint then
      match resource with
      | [] => false
      | point :: rest =>
        if name.region = [] then
          isHostName point && name.partition = "aws".toList
        else
          rest = [] && name.isPlaced && name.service = "s3".toList &&
            isHostLabel name.account && isHostLabel point
    else if name.service = "s3-outposts".toList then
      match resource with
      | [outpost, use, point] =>
        isHostLabel outpost && name.isPlaced && isHostLabel name.account &&
          use = accessPoint && point.all isLabelCharacter
      | _ => false
    else
      false

end ResourceName

end Multipart
