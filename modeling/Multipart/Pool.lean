import Multipart.Request

/-!
# Requests in flight

The part requests of an upload that have not resolved form a pool.  Those to
be polled stand in a queue, first in, first out; the others are idle until
they are woken.  A request that is cancelled stays in the pool until its turn
comes, and resolves then without being polled.
-/

namespace Multipart

/-- A part request that has not resolved, with the client's state of it. -/
structure Flight (Phase : Type) where
  number : PartNumber
  body : Bytes
  phase : Phase
  cancelled : Bool := false

/-- The part requests of one upload. -/
structure Pool (Phase : Type) where
  queued : List (Flight Phase) := []
  idle : List (Flight Phase) := []

namespace Pool

variable {Phase : Type}

/-- Every request of the pool. -/
def flights (pool : Pool Phase) : List (Flight Phase) :=
  pool.queued ++ pool.idle

/-- How many requests have not resolved. -/
def size (pool : Pool Phase) : Nat :=
  pool.queued.length + pool.idle.length

/-- Holds when no request is left. -/
def isEmpty (pool : Pool Phase) : Bool :=
  pool.queued.isEmpty && pool.idle.isEmpty

/-- The part numbers of the requests. -/
def numbers (pool : Pool Phase) : List PartNumber :=
  pool.flights.map (·.number)

/-- The request for a part. -/
def find? (pool : Pool Phase) (number : PartNumber) :
    Option (Flight Phase) :=
  pool.flights.find? fun flight => flight.number = number

/-- A new request waits behind those that are queued. -/
def push (pool : Pool Phase) (flight : Flight Phase) : Pool Phase :=
  { pool with queued := pool.queued ++ [flight] }

/-- Holds when the request for a part is queued. -/
def isQueued (pool : Pool Phase) (number : PartNumber) : Bool :=
  pool.queued.any fun flight => flight.number = number

/-- Holds when the request for a part is idle. -/
def isIdle (pool : Pool Phase) (number : PartNumber) : Bool :=
  pool.idle.any fun flight => flight.number = number

/-- A request that is woken goes to the end of the queue, if it is idle. -/
def wake (pool : Pool Phase) (number : PartNumber) : Pool Phase :=
  let (woken, idle) :=
    pool.idle.partition fun flight => flight.number = number
  { queued := pool.queued ++ woken, idle }

/-- Cancel every request; the idle ones are woken by that. -/
def cancelAll (pool : Pool Phase) : Pool Phase :=
  { queued := pool.flights.map ({ · with cancelled := true }), idle := [] }

/-- The pool without the request for a part. -/
def remove (pool : Pool Phase) (number : PartNumber) : Pool Phase :=
  { queued := pool.queued.filter fun flight => flight.number ≠ number
    idle := pool.idle.filter fun flight => flight.number ≠ number }

/-- The pool with the client's state of one request replaced. -/
def setPhase (pool : Pool Phase) (number : PartNumber) (phase : Phase) :
    Pool Phase :=
  let set (flight : Flight Phase) :=
    if flight.number = number then { flight with phase } else flight
  { queued := pool.queued.map set, idle := pool.idle.map set }

@[simp]
theorem length_flights (pool : Pool Phase) :
    pool.flights.length = pool.size := by
  simp [flights, size]

@[simp]
theorem size_push (pool : Pool Phase) (flight : Flight Phase) :
    (pool.push flight).size = pool.size + 1 := by
  simp [push, size]
  omega

@[simp]
theorem size_cancelAll (pool : Pool Phase) :
    pool.cancelAll.size = pool.size := by
  simp [cancelAll, size, flights]

theorem isEmpty_iff_size (pool : Pool Phase) :
    pool.isEmpty ↔ pool.size = 0 := by
  cases pool with
  | mk queued idle => cases queued <;> cases idle <;> simp [isEmpty, size]

end Pool

end Multipart
