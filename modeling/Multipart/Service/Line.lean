import Multipart.Host
import Multipart.Service.Reply

/-!
# Uploads on a line to the service

A client that is asked to serve a request checks it, puts it on the wire and
makes the answer from what arrives.  What becomes of a request on the wire is
up to the line, which may let requests wait and may bring replies in any
order.  A line together with a source makes a host for uploads.
-/

namespace Multipart

/-- What polling a request on the wire comes to. -/
inductive Exchange (Phase : Type) where
  | waiting (phase : Phase)
  | arrived (arrival : Arrival)

/-- A line to the service and a source with their common state. -/
structure Line (World Content Phase : Type) where
  /-- The state of a request that has not been polled yet. -/
  unsent : Request → Phase
  /-- Poll a request on the wire. -/
  poll : World → Session → WireRequest → Phase →
    Reply World (Exchange Phase)
  /-- Poll a listing, which takes a request for each of its pages. -/
  list : World → Session → (target : Target) → Phase →
    Reply World (Response Phase (.list target))
  /-- How much the source may still give. -/
  size : Content → Nat
  /-- Ask the source for a buffer. -/
  pull : World → Session → (content : Content) →
    Reply World (Pull size content)

/-- The response to a request whose wire form was polled. -/
def Exchange.response {Phase : Type} (request : Request) :
    Exchange Phase → Response Phase request
  | .waiting phase => .waiting phase
  | .arrived arrival => .finished (request.receive arrival)

namespace Line

variable {World Content Phase : Type}

/-- Poll a request once it is in its wire form. -/
def serve (line : Line World Content Phase) (world : World)
    (session : Session) (wire : WireRequest) (phase : Phase) :
    (request : Request) → Reply World (Response Phase request)
  | .list target => line.list world session target phase
  | request =>
    let reply := line.poll world session wire phase
    { world := reply.world
      signals := reply.signals
      outcome := reply.outcome.response request }

/-- The client on a line, as uploads see it. -/
def host (line : Line World Content Phase) :
    Host World Content Phase where
  unsent := line.unsent
  poll world session request phase :=
    match request.prepare with
    | .error failure => { world, outcome := .finished (.error failure) }
    | .ok wire => line.serve world session wire phase request
  size := line.size
  pull := line.pull

end Line

end Multipart
