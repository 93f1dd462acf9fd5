import Multipart.Cutter
import Multipart.Session

/-!
# What an upload runs on

An upload sends its requests through a client and draws its content from a
source; a host is the two together, with whatever state they share.  Polling
a host may do more than answer: a handle may pause the upload in the middle
of the poll, and tasks may be woken.  A host tells of these as signals, in
the order in which they came about, and the upload acts on them.  A host
sees the session of the upload it serves but cannot change it.
-/

namespace Multipart

/-- What came about while a host was polled. -/
inductive Signal where
  /-- A handle of the upload was asked for a pause. -/
  | pause
  /-- The task of a part request was woken. -/
  | wakePart (number : PartNumber)
  /-- The task that drives the upload was woken. -/
  | wakeDriver
  /-- Something else was noted in the journal. -/
  | note (entry : Journal.Entry)

/-- What polling a host gives. -/
structure Reply (World Outcome : Type) where
  world : World
  signals : List Signal := []
  outcome : Outcome

/-- What polling a request comes to. -/
inductive Response (Phase : Type) (request : Request) where
  | waiting (phase : Phase)
  | finished (answer : Except Failure request.Answer)
  /-- The request broke off; the phase is what polling it again finds. -/
  | panicked (panic : request.Breakage) (phase : Phase)

/-- A client and a source with their common state. -/
structure Host (World Content Phase : Type) where
  /-- The client's state of a request that has not been polled yet. -/
  unsent : Request → Phase
  /-- Poll a request. -/
  poll : World → Session → (request : Request) → Phase →
    Reply World (Response Phase request)
  /-- How much a source may still give. -/
  size : Content → Nat
  /-- Ask a source for a buffer. -/
  pull : World → Session → (content : Content) →
    Reply World (Pull size content)

end Multipart
