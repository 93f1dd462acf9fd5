import Multipart.Proofs.Completing
import Multipart.Proofs.Logging
import Multipart.Proofs.Opening
import Multipart.Proofs.Upload.Keeping

/-!
# What the service is told of its parts

The request that completes an upload tells the service again what the service
itself has told of each part: its tag and its checksums, as they were listed
if the part was there before, and as they were replied if it was sent.  The
main statement, `echoed_unchanged`, is about every upload that is started or
resumed on any line to the service, whatever the service replies.
-/

namespace Multipart

variable {World Content Phase : Type} {target : Target} {plan : Plan}
  {existing : PartTable Receipt} {entries : List ListedPart}

/-- Holds of a part of which the service is told what it has told. -/
inductive WirePart.Echoes (target : Target) (entries : List ListedPart)
    (before : List Passage) (part : WirePart) : Prop where
  /-- The part was listed; the last entry for it counts. -/
  | listed {entry : ListedPart}
      (last : ListedPart.last? entries part.number = some entry)
      (tag : entry.tag = some part.tag.text)
      (checksums : entry.checksums = part.checksums)
  /-- The part was sent; the one reply to it counts. -/
  | replied {body : WireBody}
      (unlisted : ListedPart.last? entries part.number = none)
      (replied :
        ⟨.part target part.number body,
          some (.ok (.stored (some part.tag.text) part.checksums))⟩ ∈
            before)
      (alone : ∀ {aim body tag checksums},
        ⟨.part aim part.number body,
            some (.ok (.stored (some tag) checksums))⟩ ∈ before →
          tag = part.tag.text ∧ checksums = part.checksums)

/-- What each request on the wire has to be like, after those before it. -/
structure Passage.Echoes (target : Target) (plan : Plan)
    (entries : List ListedPart) (before : List Passage)
    (passage : Passage) : Prop where
  aimed : passage.wire.target? = some target
  unlisted : ∀ {aim marker}, passage.wire ≠ .list aim marker
  measured : ∀ {aim number body}, passage.wire = .part aim number body →
    body.length = body.bytes.length
  numbers : ∀ {aim parts}, passage.wire = .complete aim parts →
    parts.map (·.number) = List.range' 1 plan.partCount.toNat
  echoes : ∀ {aim parts}, passage.wire = .complete aim parts →
    ∀ part ∈ parts, part.Echoes target entries before

/-! ## The request that completes an upload -/

/-- Holds of receipts and of the entries that they were made from. -/
def PartTable.Mirrors (existing : PartTable Receipt) (plan : Plan)
    (entries : List ListedPart) : Prop :=
  ∀ number ∈ plan.numbers,
    (ListedPart.last? entries number.toNat).map ListedPart.receipt =
      (existing.find? number).map .ok

namespace Assembled

variable {before : History} {session : Session} {aim : Target}
  {receipts : List Receipt} {log : List Passage}

/-- The request that completes an upload lists the parts of its plan. -/
theorem map_number_echo
    (assembled : Assembled target plan existing.find? before session aim
      receipts) :
    (receipts.map Receipt.echo).map (·.number) =
      List.range' 1 plan.partCount.toNat := by
  rw [← plan.map_toNat_numbers, ← assembled.numbers, List.map_map,
    List.map_map]
  rfl

/-- What the request that completes an upload lists was told before. -/
theorem echoes
    (assembled : Assembled target plan existing.find? before session aim
      receipts)
    (mirrors : existing.Mirrors plan entries)
    (traced : Traced log before.facts) {receipt : Receipt}
    (listed : receipt ∈ receipts) :
    receipt.echo.Echoes target entries log := by
  have contained : receipt.number ∈ plan.numbers := by
    rw [← assembled.numbers]
    exact List.mem_map_of_mem listed
  have mirrored := mirrors receipt.number contained
  cases known : existing.find? receipt.number with
  | some old =>
      obtain rfl := assembled.kept receipt listed known
      rw [known] at mirrored
      obtain ⟨entry, last, made⟩ := Option.map_eq_some_iff.mp mirrored
      have tells := ListedPart.tells_of_receipt made
      exact .listed last tells.tag tells.checksums
  | none =>
      rw [known] at mirrored
      obtain ⟨⟨body, answered⟩, alone⟩ := assembled.gained receipt listed known
      refine .replied (Option.map_eq_none_iff.mp mirrored)
        (traced.replied ((History.mem_facts rfl).mpr answered)) ?_
      intro other body tag checksums passed
      obtain ⟨number, again, told, landed, rfl, rfl⟩ :=
        traced.answered passed
      obtain rfl := PartNumber.toNat_inj.mp told
      rw [alone ((History.mem_facts rfl).mp landed)]
      exact ⟨rfl, rfl⟩

end Assembled

/-! ## Every run -/

/-- Holds of surroundings whose log is traced, and echoes what it tells. -/
structure Recorded.Echoes (target : Target) (plan : Plan)
    (entries : List ListedPart) (recorded : Recorded (Logged World)) :
    Prop where
  traced : Traced recorded.world.log recorded.facts
  echoes : ∀ before passage after,
    recorded.world.log = before ++ passage :: after →
      passage.Echoes target plan entries before

/-- The source may be asked. -/
theorem Recorded.Echoes.pull {recorded : Recorded (Logged World)}
    (echoes : recorded.Echoes target plan entries)
    (line : Line World Content Phase) (session : Session)
    (content : Content) :
    (line.logged.host.recording.pull recorded session
      content).world.Echoes target plan entries := by
  let reply := line.logged.host.pull recorded.world session content
  have log : (recorded.witness session .pulled reply
      reply.outcome.event?).world.log = recorded.world.log := by
    rw [Recorded.world_witness]
    rfl
  have facts := recorded.facts_witness session .pulled reply
    reply.outcome.event?
  change (recorded.witness session .pulled reply
    reply.outcome.event?).Echoes target plan entries
  constructor
  · rw [log, facts, List.append_assoc]
    refine echoes.traced.quiet fun event member => ?_
    rcases List.mem_append.mp member with asked | given
    · rw [List.mem_singleton.mp (List.mem_of_mem_filter asked)]
      rfl
    · rcases Pull.eq_of_mem_event (List.mem_of_mem_filter given) with
        rfl | ⟨buffer, rfl⟩ <;> rfl
  · rw [log]
    exact echoes.echoes

/-- What is known of an upload on a logged line. -/
structure Echoing (target : Target) (plan : Plan)
    (existing : PartTable Receipt) (entries : List ListedPart)
    (place : Place (Recorded (Logged World)) Content (Marked Phase)) :
    Prop where
  accounted : Accounted target plan existing place
  echoes : place.world.Echoes target plan entries

namespace Echoing

variable {line : Line World Content Phase}
  {place later : Place (Recorded (Logged World)) Content (Marked Phase)}

/-- A request that a step may poll echoes what was told before. -/
theorem polls (echoing : Echoing target plan existing entries place)
    (mirrors : existing.Mirrors plan entries)
    (unresolved : place.upload.resolved = false)
    {request : Request} {marked : Marked Phase}
    (polls : place.upload.Polls request marked) {wire : WireRequest}
    (prepared : request.prepare = .ok wire) (arrival? : Option Arrival) :
    Passage.Echoes target plan entries place.world.world.log
      ⟨wire, arrival?⟩ := by
  have aimed : some place.upload.session.target = some target :=
    congrArg some echoing.accounted.sound.aimed
  have spells := Request.spells_of_prepare prepared
  cases polls with
  | part =>
      cases spells
      exact
        { aimed
          unlisted := nofun
          measured := fun same => by cases same; rfl
          numbers := nofun
          echoes := nofun }
  | closing unaborted closed wanted =>
      have assembled :=
        echoing.accounted.assembled unresolved closed wanted
      cases spells
      exact
        { aimed
          unlisted := nofun
          measured := nofun
          numbers := fun same => by
            cases same
            exact assembled.map_number_echo
          echoes := fun same part listed => by
            cases same
            obtain ⟨receipt, member, rfl⟩ := List.mem_map.mp listed
            exact assembled.echoes mirrors echoing.echoes.traced member }
  | abort =>
      cases spells
      exact
        { aimed
          unlisted := nofun
          measured := nofun
          numbers := nofun
          echoes := nofun }

/-- What a request that is polled leaves in the log echoes the rest. -/
theorem passes (echoing : Echoing target plan existing entries place)
    (mirrors : existing.Mirrors plan entries)
    (unresolved : place.upload.resolved = false)
    {request : Request} {marked : Marked Phase}
    (polls : place.upload.Polls request marked) {log : List Passage}
    {response : Response Phase request}
    (passes : Passes request place.world.world.log log response)
    (before : List Passage) (passage : Passage) (after : List Passage)
    (split : log = before ++ passage :: after) :
    passage.Echoes target plan entries before := by
  have last {wire : WireRequest} (arrival? : Option Arrival)
      (prepared : request.prepare = .ok wire)
      (split : place.world.world.log ++ [⟨wire, arrival?⟩] =
        before ++ passage :: after) :
      passage.Echoes target plan entries before := by
    rcases split_concat split with ⟨rfl, rfl⟩ | ⟨rest, same⟩
    · exact echoing.polls mirrors unresolved polls prepared arrival?
    · exact echoing.echoes.echoes before passage rest same
  cases passes with
  | refused => exact echoing.echoes.echoes before passage after split
  | waiting prepared => exact last none prepared split
  | arrived prepared => exact last (some _) prepared split

/-- A request may be polled. -/
theorem poll (echoing : Echoing target plan existing entries place)
    (mirrors : existing.Mirrors plan entries)
    (unresolved : place.upload.resolved = false)
    (line : Line World Content Phase) {request : Request}
    {marked : Marked Phase}
    (polls : place.upload.Polls request marked) :
    (line.logged.host.recording.poll place.world place.upload.session
      request marked).world.Echoes target plan entries := by
  have passes := line.passes_logged place.world.world place.upload.session
    polls.unlisted marked.phase
  have world := Place.world_hear_poll line.logged.host place request marked
  have facts := facts_poll line.logged.host place request marked
  change (place.hear (line.logged.host.recording.poll place.world
    place.upload.session request marked)).world.Echoes target plan entries
  constructor
  · rw [world, facts]
    exact echoing.echoes.traced.poll marked passes
  · rw [world]
    exact echoing.passes mirrors unresolved polls passes

/-- Every step echoes what was told before. -/
theorem step (echoing : Echoing target plan existing entries place)
    (mirrors : existing.Mirrors plan entries)
    (unresolved : place.upload.resolved = false)
    {outcome : Option Outcome}
    (step : Step line.logged.host.recording place later outcome) :
    Echoing target plan existing entries later where
  accounted := echoing.accounted.step line.logged.isNumbered_host
    unresolved step
  echoes := by
    apply step.keeps_world (Recorded.Echoes target plan entries)
      echoing.echoes
    · intro recorded session content echoes
      exact echoes.pull line session content
    · intro request marked polls
      exact echoing.poll mirrors unresolved line polls

theorem lasts (mirrors : existing.Mirrors plan entries)
    (line : Line World Content Phase) :
    Lasts line.logged.host (fun before after => after.log = before.log)
      (Echoing target plan existing entries) where
  activate echoing := ⟨echoing.accounted.activate, echoing.echoes⟩
  step echoing unresolved step := echoing.step mirrors unresolved step
  note {place event} echoing idle := by
    refine ⟨echoing.accounted.note idle, ?_, echoing.echoes.echoes⟩
    have facts := place.world.facts_note_of_idle place.upload.session idle
    change Traced _ (place.world.note place.upload.session event).facts
    rw [facts]
    exact echoing.echoes.traced
  heard echoing heard := ⟨echoing.accounted.heard heard, echoing.echoes⟩
  change {place change} echoing same := by
    refine ⟨echoing.accounted.change _, ?_, ?_⟩
    · change Traced (change place.world.world).log place.world.facts
      rw [same]
      exact echoing.echoes.traced
    · change ∀ before passage after,
        (change place.world.world).log = before ++ passage :: after → _
      rw [same]
      exact echoing.echoes.echoes
  feed feed echoing := ⟨echoing.accounted.feed feed, echoing.echoes⟩

/-- Nothing is told before an upload is driven. -/
theorem begin (world : World) (target : Target) (plan : Plan)
    (given : List Receipt) (limit : Option Nat) (content : Content)
    (entries : List ListedPart) :
    Echoing target plan
      (Progress.ofReceipts
        (given.filter fun receipt => plan.contains receipt.number)).existing
      entries
      (Place.begin ({ world } : Logged World)
        (.ofPlan target plan given limit content) :
        Place (Recorded (Logged World)) Content (Marked Phase)) where
  accounted := Accounted.begin _ target plan given limit content
  echoes := ⟨Traced.nil, fun before passage after split => by
    cases before <;> cases split⟩

end Echoing

/-- The receipts that an upload is given mirror the entries they are of. -/
theorem Progress.mirrors_existing {given : List Receipt}
    (made : entries.map ListedPart.receipt = given.map .ok) :
    (ofReceipts (given.filter fun receipt =>
      plan.contains receipt.number)).existing.Mirrors plan entries := by
  intro number listed
  rw [find?_existing_ofReceipts,
    Receipt.last?_filter (Plan.mem_numbers.mp listed)]
  exact ListedPart.map_receipt_last? made number

/--
Whatever the service replies, and whatever its line makes of requests, an
upload that is started or resumed names itself in each request, and before
that in each request for a page of its listing.  The length that it tells of
a part is that of its body.  And if it is to be completed, it lists the parts
of its plan in order, each with the tag and the checksums that the service
has told of it: for a part that was listed those of the last entry for it, in
the order of the listing, and for any other those of the reply to it.
-/
theorem echoed_unchanged (replies : List Arrival) (uploader : Uploader)
    (token? : Option Checkpoint) (location : Location) (length : UInt64)
    (line : Line World Content Phase) (world : World) (content : Content)
    (moves : List (Move World Content)) :
    let begun :=
      ({ replies } : Service).begin uploader token? location length
    (∀ passage ∈ begun.1.log, ∀ aim, passage.wire.target? = some aim →
      ∃ checkpoint, token? = some checkpoint ∧
        aim = ⟨checkpoint.id, location⟩) ∧
      ∀ opening, begun.2 = .ok opening →
        Names begun.1.log location token? opening.target ∧
          let final :=
            (Place.begin ({ world } : Logged World)
              (uploader.upload opening.target opening.plan opening.existing
                content)).replay line.logged.host (moves.map Move.logged)
          ∀ before passage after,
            final.world.world.log = before ++ passage :: after →
              passage.Echoes opening.target opening.plan begun.1.listed
                before := by
  intro begun
  constructor
  · intro passage member aim aimed
    exact Service.target_of_begin replies uploader location length token?
      member aimed
  · intro opening opened
    have opens := Service.opens_of_begin replies uploader location length
      token? (Prod.ext rfl opened : begun = (begun.1, .ok opening))
    refine ⟨opens.names, ?_⟩
    intro final
    have kept : Echoing opening.target opening.plan _ begun.1.listed final :=
      (Echoing.lasts (Progress.mirrors_existing opens.entries) line).replay
        (Echoing.begin world opening.target opening.plan opening.existing
          uploader.limit content begun.1.listed)
        (moves.map Move.logged)
        fun change member logged => Move.log_logged member logged
    exact kept.echoes.echoes

namespace Service

/-- The upload that is resumed below: it has two parts, the first is there. -/
def pagedToken : Checkpoint :=
  { id := ⟨"upload-1"⟩, partSize := 2, totalParts := 2, partsDone := 1 }

/-- The replies to its listing, in two pages that both have the first part. -/
def pagedReplies : List Arrival :=
  [.ok (.listed (some
      { parts := [{ number := some 1, tag := some "old" }]
        isTruncated := true
        nextMarker := some "1" })),
    .ok (.listed (some
      { parts :=
          [{ number := some 1
             tag := some "one"
             checksums := { checksumCrc32 := some "sum" } }] }))]

/-- The replies to its second part and to its completion. -/
def pagedWorld : Service where
  replies :=
    [.ok (.stored (some "two") { checksumSha256 := some "hash" }),
      .ok (.completed (some "whole"))]

/-- What it starts from. -/
def pagedOpening : Opening where
  target := ⟨pagedToken.id, .ofPair "bucket" "key"⟩
  plan := .ofLength 3 2
  existing :=
    [{ number := ⟨1⟩, tag := ⟨"old"⟩, size := 0 },
      { number := ⟨1⟩
        tag := ⟨"one"⟩
        checksums := { crc32 := some "sum" }
        size := 0 }]

/-- The listing that begins it. -/
def pagedBegun : Service × Except Failure Opening :=
  ({ replies := pagedReplies } : Service).begin {} (some pagedToken)
    pagedOpening.target.location 3

/-- The upload after one poll. -/
def pagedFinal : Place (Recorded (Logged Service)) Buffered (Marked Unit) :=
  (Place.begin ({ world := pagedWorld } : Logged Service)
    (({} : Uploader).upload pagedOpening.target pagedOpening.plan
      pagedOpening.existing (some [1, 2, 3]))).replay
    line.logged.host ([.poll].map Move.logged)

theorem pagedBegun_eq_ok : pagedBegun.2 = .ok pagedOpening := by
  have listed : pagedBegun.2 =
      .ok { pagedOpening with
        existing := Receipt.sorted pagedOpening.existing } := by
    with_unfolding_all rfl
  rw [listed, Receipt.sorted, List.mergeSort_of_pairwise (by decide)]

end Service

/-- One part is completed as its last entry says, one as it was replied. -/
theorem echoed_paged :
    Service.pagedBegun.2 = .ok Service.pagedOpening ∧
      ∃ before passage after,
        Service.pagedFinal.world.world.log = before ++ passage :: after ∧
          passage.wire = .complete Service.pagedOpening.target
            [⟨1, ⟨"one"⟩, { checksumCrc32 := some "sum" }⟩,
              ⟨2, ⟨"two"⟩, { checksumSha256 := some "hash" }⟩] ∧
          passage.Echoes Service.pagedOpening.target
            Service.pagedOpening.plan Service.pagedBegun.1.listed
            before := by
  have opened := Service.pagedBegun_eq_ok
  have sends : Service.pagedFinal.world.world.log.any
      (fun passage =>
        passage.wire = .complete Service.pagedOpening.target
          [⟨1, ⟨"one"⟩, { checksumCrc32 := some "sum" }⟩,
            ⟨2, ⟨"two"⟩, { checksumSha256 := some "hash" }⟩]) = true := by
    decide +kernel
  obtain ⟨passage, member, wire⟩ := List.any_eq_true.mp sends
  obtain ⟨before, after, split⟩ := List.append_of_mem member
  refine ⟨opened, before, passage, after, split, of_decide_eq_true wire, ?_⟩
  exact ((echoed_unchanged Service.pagedReplies {} (some Service.pagedToken)
    Service.pagedOpening.target.location 3 Service.line
    Service.pagedWorld (some [1, 2, 3]) [.poll]).2
      Service.pagedOpening opened).2 before passage after split

end Multipart
