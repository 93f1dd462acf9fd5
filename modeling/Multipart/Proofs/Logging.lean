import Multipart.Proofs.Completing.Accounted
import Multipart.Proofs.Wire

/-!
# What passes on a line

A logged line works like the line it is made of and writes down each request
that is polled on it, with what arrived if anything did.  An upload sees only
the answers that are made from this; the invariant `Traced` tells that the
receipts among these answers and the replies to part requests in the log are
the same.
-/

namespace Multipart

variable {World Content Phase : Type}

/-! ## A logged line -/

/-- Surroundings with a log of what has passed. -/
structure Logged (World : Type) where
  world : World
  log : List Passage := []

/-- What arrived in an exchange, if anything did. -/
def Exchange.arrival? : Exchange Phase → Option Arrival
  | .waiting _ => none
  | .arrived arrival => some arrival

/--
A line that works like another and keeps a log.  Of a listing it only notes
the first request.
-/
def Line.logged (line : Line World Content Phase) :
    Line (Logged World) Content Phase where
  unsent := line.unsent
  poll logged session wire phase :=
    let reply := line.poll logged.world session wire phase
    let log := logged.log ++ [⟨wire, reply.outcome.arrival?⟩]
    { reply with world := { world := reply.world, log } }
  list logged session target phase :=
    let reply := line.list logged.world session target phase
    let log := logged.log ++ [⟨.list target none, none⟩]
    { reply with world := { world := reply.world, log } }
  size := line.size
  pull logged session content :=
    let reply := line.pull logged.world session content
    { reply with world := { logged with world := reply.world } }

/-- A move that leaves the log as it is. -/
def Move.logged : Move World Content → Move (Logged World) Content
  | .poll => .poll
  | .pause => .pause
  | .wake number => .wake number
  | .change alter =>
    .change fun logged => { logged with world := alter logged.world }
  | .feed refill => .feed refill

theorem Move.log_logged {change : Logged World → Logged World}
    {moves : List (Move World Content)}
    (member : .change change ∈ moves.map Move.logged)
    (logged : Logged World) : (change logged).log = logged.log := by
  obtain ⟨move, _, same⟩ := List.mem_map.mp member
  cases move with
  | change other => cases same; rfl
  | _ => cases same

/-- What becomes of a log, and what is responded, as a request is polled. -/
inductive Passes (request : Request) (log : List Passage) :
    List Passage → Response Phase request → Prop where
  /-- The request is not in order. -/
  | refused {failure : Failure}
      (refused : request.prepare = .error failure) :
      Passes request log log (.finished (.error failure))
  /-- The request is on the wire. -/
  | waiting {wire : WireRequest} {phase : Phase}
      (prepared : request.prepare = .ok wire) :
      Passes request log (log ++ [⟨wire, none⟩]) (.waiting phase)
  /-- Something has arrived. -/
  | arrived {wire : WireRequest} {arrival : Arrival}
      (prepared : request.prepare = .ok wire) :
      Passes request log (log ++ [⟨wire, some arrival⟩])
        (.finished (request.receive arrival))

namespace Line

variable (line : Line World Content Phase)

/-- A request that is no listing passes on the wire as it is. -/
theorem passes_logged (logged : Logged World) (session : Session)
    {request : Request} (unlisted : ∀ target, request ≠ .list target)
    (phase : Phase) :
    let reply := line.logged.host.poll logged session request phase
    Passes request logged.log reply.world.log reply.outcome := by
  dsimp only [host]
  cases prepared : request.prepare with
  | error failure => exact .refused prepared
  | ok wire =>
      have serves : line.logged.serve logged session wire phase request =
          let reply := line.logged.poll logged session wire phase
          { world := reply.world
            signals := reply.signals
            outcome := reply.outcome.response request } := by
        cases request with
        | list target => exact absurd rfl (unlisted target)
        | _ => rfl
      dsimp only
      rw [serves]
      dsimp only [Line.logged]
      cases (line.poll logged.world session wire phase).outcome with
      | waiting phase => exact .waiting prepared
      | arrived arrival => exact .arrived prepared

/-- A receipt has the number of its request, whatever the service says. -/
theorem isNumbered_host : line.host.IsNumbered := by
  intro world session target number body phase receipt answered
  dsimp only [host] at answered
  split at answered
  · cases answered
  · rename_i wire prepared
    change (line.poll world session wire phase).outcome.response _ = _
      at answered
    cases outcome : (line.poll world session wire phase).outcome with
    | waiting later =>
        rw [outcome] at answered
        cases answered
    | arrived arrival =>
        rw [outcome] at answered
        obtain ⟨tag, checksums, _, rfl⟩ :=
          Request.receive_part_eq_ok.mp (Response.finished.inj answered)
        rfl

end Line

/-! ## Receipts and replies -/

/-- Holds of a log and of facts that tell the same of the receipts. -/
structure Traced (log : List Passage) (facts : List Event) : Prop where
  /-- What a receipt says was replied to the request for its part. -/
  replied : ∀ {aim number body receipt},
    .answered (.part aim number body) (.ok receipt) ∈ facts →
      ⟨.part aim number.toNat ⟨body, body.length⟩,
        some (.ok (.stored (some receipt.tag.text)
          receipt.checksums.toWire))⟩ ∈ log
  /-- What was replied to the request for a part is said by a receipt. -/
  answered : ∀ {aim told body tag checksums},
    ⟨.part aim told body, some (.ok (.stored (some tag) checksums))⟩ ∈
        log →
      ∃ number receipt, told = number.toNat ∧
        .answered (.part aim number body.bytes) (.ok receipt) ∈ facts ∧
        tag = receipt.tag.text ∧ checksums = receipt.checksums.toWire

namespace Traced

variable {log later : List Passage} {facts : List Event}

theorem nil : Traced [] [] := ⟨nofun, nofun⟩

/-- Facts may be added that land no part. -/
theorem quiet (traced : Traced log facts) {events : List Event}
    (unlanded : ∀ event ∈ events, event.lands = false) :
    Traced log (facts ++ events) where
  replied landed :=
    traced.replied ((mem_append_of_unlanded unlanded).mp landed)
  answered passed := by
    obtain ⟨number, receipt, told, landed, same⟩ := traced.answered passed
    exact ⟨number, receipt, told, List.mem_append_left _ landed, same⟩

/-- A request may pass that nothing arrived for. -/
theorem wait (traced : Traced log facts) (wire : WireRequest) :
    Traced (log ++ [⟨wire, none⟩]) facts where
  replied landed := List.mem_append_left _ (traced.replied landed)
  answered passed := by
    rcases List.mem_append.mp passed with passed | new
    · exact traced.answered passed
    · cases List.mem_singleton.mp new

/-- A request may be answered from what arrived. -/
theorem arrive (traced : Traced log facts) {request : Request}
    {wire : WireRequest} (spells : request.Spells wire)
    (arrival : Arrival) :
    Traced (log ++ [⟨wire, some arrival⟩])
      (facts ++ [.answered request (request.receive arrival)]) where
  replied {aim number body receipt} landed := by
    rcases List.mem_append.mp landed with landed | new
    · exact List.mem_append_left _ (traced.replied landed)
    · apply List.mem_append_right
      have same := List.mem_singleton.mp new
      cases spells with
      | part =>
          rw [Event.answered.injEq] at same
          obtain ⟨same, received⟩ := same
          obtain ⟨rfl, rfl, rfl⟩ := Request.part.inj same
          obtain ⟨tag, checksums, rfl, rfl⟩ :=
            Request.receive_part_eq_ok.mp (eq_of_heq received).symm
          exact List.mem_singleton_self _
      | _ => cases same
  answered passed := by
    rcases List.mem_append.mp passed with passed | new
    · obtain ⟨number, receipt, told, landed, same⟩ := traced.answered passed
      exact ⟨number, receipt, told, List.mem_append_left _ landed, same⟩
    · cases spells with
      | part target number body =>
          cases List.mem_singleton.mp new
          exact ⟨number, _, rfl,
            List.mem_append_right _ (List.mem_singleton_self _), rfl, rfl⟩
      | _ => cases List.mem_singleton.mp new

/-- A request may be polled, whatever comes of it. -/
theorem poll (traced : Traced log facts) {request : Request}
    {response : Response Phase request} (marked : Marked Phase)
    (passes : Passes request log later response) :
    Traced later
      (facts ++ marked.facts request ++ response.event?.toList) := by
  have sent : Traced log (facts ++ marked.facts request) :=
    traced.quiet fun event member => by
      rw [Marked.eq_of_mem_facts member]
      rfl
  cases passes with
  | refused refused =>
      refine sent.quiet fun event member => ?_
      rw [List.mem_singleton.mp member]
      cases request <;> rfl
  | waiting prepared =>
      rw [show Response.event? _ = none from rfl, Option.toList_none,
        List.append_nil]
      exact sent.wait _
  | arrived prepared =>
      exact sent.arrive (Request.spells_of_prepare prepared) _

end Traced

end Multipart
