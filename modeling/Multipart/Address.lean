import Multipart.Failure

/-!
# How an object is addressed

Whoever asks for an upload names the object by its written form or by its
bucket and key.  Only a written form can turn out to name no object.
-/

namespace Multipart

/-- The name of an object as it is given. -/
inductive Address where
  | written (text : String)
  | pair (bucket key : String)
deriving DecidableEq

/-- The location that an address names. -/
def Address.resolve : Address → Except Failure Location
  | .written text =>
    match Location.parse text with
    | .ok location => .ok location
    | .error fault => .error (.missing (.location fault))
  | .pair bucket key => .ok (.ofPair bucket key)

end Multipart
