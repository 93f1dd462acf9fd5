import Multipart.Proofs.Listing

/-!
# The pages of a listing

A listing asks for its first page without a marker, and for each page after
it with the marker of the page before, as long as that page is truncated and
has one.  It fails at the first page that cannot be read.  Otherwise it has
the entries of all pages, in the order of their numbers, and those with one
number in the order in which they came: the main statement is
`listed_in_order`.
-/

namespace Multipart

/-! ## Entries -/

namespace ListedPart

/-- Holds of an entry with a tag and a number that is not negative. -/
structure IsWhole (part : ListedPart) : Prop where
  numbered : ∃ number, part.number = some number ∧ 0 ≤ number.toInt
  tagged : part.tag ≠ none

/-- Holds of a receipt that says all that an entry says. -/
structure Reports (part : ListedPart) (receipt : Receipt) : Prop where
  number : ∃ number, part.number = some number ∧
    number.toInt = receipt.number.toNat
  tag : part.tag = some receipt.tag.text
  checksums : part.checksums = receipt.checksums.toWire
  /-- A size that is absent or negative is zero. -/
  size : receipt.size.toNat = (part.size.getD 0).toInt.toNat

theorem reports_of_receipt {part : ListedPart} {receipt : Receipt}
    (made : part.receipt = .ok receipt) : part.Reports receipt := by
  have tells := tells_of_receipt made
  rw [ListedPart.receipt] at made
  dsimp only at made
  split at made
  · cases made
  · cases made
  · rename_i number tag numbered tagged
    rw [demand_eq_ok, Option.filter_eq_some_iff] at numbered
    obtain ⟨there, positive⟩ := numbered
    obtain rfl := Except.ok.inj made
    refine ⟨⟨number, there, ?_⟩, tells.tag, tells.checksums, ?_⟩
    · rw [← tells.rank, rank, there]
      have := Int32.le_iff_toInt_le.mp (of_decide_eq_true positive)
      exact (Int.toNat_of_nonneg this).symm
    · have small := Int64.toNatClampNeg_lt (part.size.getD 0)
      exact UInt64.toNat_ofNat_of_lt' (small.trans (by decide))

/-- An entry has a receipt if there is what is demanded of it. -/
theorem isWhole_iff {part : ListedPart} :
    part.IsWhole ↔ ∃ receipt, part.receipt = .ok receipt := by
  constructor
  · rintro ⟨⟨number, there, positive⟩, tagged⟩
    obtain ⟨tag, told⟩ := Option.ne_none_iff_exists'.mp tagged
    have kept : (0 : Int32) ≤ number := Int32.le_iff_toInt_le.mpr positive
    have passes : (some number).filter (fun number : Int32 => 0 ≤ number) =
        some number := by
      rw [Option.filter_some, if_pos (decide_eq_true kept)]
    rw [receipt, there, told]
    dsimp only
    rw [passes]
    exact ⟨_, rfl⟩
  · rintro ⟨receipt, made⟩
    have reports := reports_of_receipt made
    obtain ⟨number, there, same⟩ := reports.number
    refine ⟨⟨number, there, ?_⟩, ?_⟩
    · rw [same]
      exact Int.natCast_nonneg _
    · rw [reports.tag]
      exact Option.some_ne_none _

/--
Holds of receipts that report every entry once, in ascending order of their
numbers; those with one number stand in the order of the entries.
-/
def Lists (parts : List ListedPart) (receipts : List Receipt) : Prop :=
  ∃ received, List.Forall₂ Reports parts received ∧
    receipts.Perm received ∧
    receipts.Pairwise (fun left right =>
      left.number.toNat ≤ right.number.toNat) ∧
    ∀ number, receipts.filter (·.number = number) =
      received.filter (·.number = number)

end ListedPart

namespace Receipt

/-- The order of receipts by their numbers. -/
def precedes (left right : Receipt) : Bool :=
  left.number.value ≤ right.number.value

theorem precedes_trans (first second third : Receipt)
    (left : first.precedes second) (right : second.precedes third) :
    first.precedes third :=
  decide_eq_true
    (UInt32.le_trans (of_decide_eq_true left) (of_decide_eq_true right))

theorem precedes_total (left right : Receipt) :
    left.precedes right || right.precedes left := by
  rw [precedes, precedes, Bool.or_eq_true, decide_eq_true_eq,
    decide_eq_true_eq]
  exact UInt32.le_total _ _

/-- In order, receipts have ascending numbers. -/
theorem pairwise_sorted (receipts : List Receipt) :
    (sorted receipts).Pairwise fun left right =>
      left.number.toNat ≤ right.number.toNat := by
  refine (List.pairwise_mergeSort precedes_trans precedes_total
    receipts).imp fun {left right} ordered => ?_
  exact UInt32.le_iff_toNat_le.mp (of_decide_eq_true ordered)

/-- Putting receipts in order leaves those with one number as they stood. -/
theorem filter_sorted (receipts : List Receipt) (number : PartNumber) :
    (sorted receipts).filter (·.number = number) =
      receipts.filter (·.number = number) := by
  have level : (receipts.filter (·.number = number)).Pairwise
      fun left right => left.precedes right := by
    refine List.pairwise_of_forall_mem_list ?_
    intro left first right second
    have one := of_decide_eq_true (List.mem_filter.mp first).2
    have two := of_decide_eq_true (List.mem_filter.mp second).2
    rw [precedes, one, two]
    exact decide_eq_true (UInt32.le_refl _)
  have kept := (List.sublist_mergeSort precedes_trans precedes_total
    level List.filter_sublist).filter (·.number = number)
  rw [List.filter_filter] at kept
  simp only [Bool.and_self] at kept
  refine (kept.eq_of_length ?_).symm
  exact ((List.mergeSort_perm receipts precedes).filter _).length_eq.symm

/-- Receipts in order list the entries that they report. -/
theorem lists_sorted {parts : List ListedPart} {received : List Receipt}
    (reports : List.Forall₂ ListedPart.Reports parts received) :
    ListedPart.Lists parts (sorted received) :=
  ⟨received, reports, List.mergeSort_perm received _,
    pairwise_sorted received, filter_sorted received⟩

end Receipt

/-! ## Pages -/

namespace Arrival

/-- The page that arrived, if there is one that can be read. -/
def page? : Arrival → Option ListedPage
  | .ok (.listed (some page)) => some page
  | _ => none

/-- The entries that arrived. -/
def entries (arrival : Arrival) : List ListedPart :=
  (arrival.page?.map ListedPage.parts).getD []

/-- The marker that arrived. -/
def marker? (arrival : Arrival) : Option String :=
  arrival.page?.bind ListedPage.nextMarker

/-- Holds when a page arrived all of whose entries are whole. -/
def IsSound (arrival : Arrival) : Prop :=
  ∃ page, arrival.page? = some page ∧ ∀ part ∈ page.parts, part.IsWhole

/-- Holds when the page that arrived is truncated and has a marker. -/
def GoesOn (arrival : Arrival) : Prop :=
  ∃ page, arrival.page? = some page ∧ page.isTruncated = true ∧
    page.nextMarker ≠ none

variable {arrival : Arrival} {target : Target}

/-- What a listing takes from an arrival are the receipts of a page. -/
theorem receive_list_eq_ok {receipts : List Receipt} :
    (Request.list target).receive arrival = .ok receipts ↔
      ∃ page, arrival.page? = some page ∧
        page.parts.mapM ListedPart.receipt = .ok receipts := by
  constructor
  · intro received
    cases arrival with
    | error fault => cases received
    | ok reply =>
        cases reply with
        | listed page? =>
            cases page? with
            | none => cases received
            | some page => exact ⟨page, rfl, received⟩
        | _ => cases received
  · rintro ⟨page, arrived, received⟩
    unfold page? at arrived
    split at arrived
    · obtain rfl := Option.some.inj arrived
      exact received
    · cases arrived

theorem isSound_iff :
    arrival.IsSound ↔
      ∃ receipts : List Receipt,
        (Request.list target).receive arrival = .ok receipts := by
  have each (page : ListedPage) :
      (∀ part ∈ page.parts, part.IsWhole) ↔
        ∃ receipts, page.parts.mapM ListedPart.receipt = .ok receipts := by
    rw [exists_mapM_eq_ok]
    exact forall₂_congr fun _ _ => ListedPart.isWhole_iff
  constructor
  · rintro ⟨page, arrived, whole⟩
    obtain ⟨receipts, made⟩ := (each page).mp whole
    exact ⟨receipts, receive_list_eq_ok.mpr ⟨page, arrived, made⟩⟩
  · rintro ⟨receipts, received⟩
    obtain ⟨page, arrived, made⟩ := receive_list_eq_ok.mp received
    exact ⟨page, arrived, (each page).mpr ⟨receipts, made⟩⟩

/-- The receipts of a page report its entries, one after another. -/
theorem forall₂_reports {receipts : List Receipt}
    (received : (Request.list target).receive arrival = .ok receipts) :
    List.Forall₂ ListedPart.Reports arrival.entries receipts := by
  obtain ⟨page, arrived, made⟩ := receive_list_eq_ok.mp received
  have same : arrival.entries = page.parts := by
    rw [entries, arrived]
    rfl
  have made := mapM_eq_ok.mp made
  rw [← same, ← List.forall₂_eq_eq_eq, List.forall₂_map_left_iff,
    List.forall₂_map_right_iff] at made
  exact made.imp fun _ _ => ListedPart.reports_of_receipt

/-- Where a page goes on, the next one begins at its marker. -/
theorem goesOn_of_next? {next : String}
    (follows : arrival.next? = some next) :
    arrival.GoesOn ∧ arrival.marker? = some next := by
  unfold next? at follows
  split at follows
  · rename_i page
    rw [ListedPage.next?] at follows
    split at follows
    · rename_i truncated
      refine ⟨⟨page, rfl, truncated, ?_⟩, follows⟩
      rw [follows]
      exact Option.some_ne_none next
    · cases follows
  · cases follows

theorem not_goesOn_of_next? (ends : arrival.next? = none) :
    ¬ arrival.GoesOn := by
  rintro ⟨page, arrived, truncated, marked⟩
  unfold page? at arrived
  split at arrived
  · obtain rfl := Option.some.inj arrived
    rw [next?, ListedPage.next?, if_pos truncated] at ends
    exact marked ends
  · cases arrived

end Arrival

/-! ## Requests for pages -/

/-- Requests for pages, each with the marker of what arrived before it. -/
def Passage.chain (target : Target) :
    Option String → List Arrival → List Passage
  | _, [] => []
  | marker, arrival :: arrivals =>
    ⟨.list target marker, some arrival⟩ ::
      chain target arrival.marker? arrivals

@[simp]
theorem Passage.map_arrival?_chain (target : Target)
    (marker : Option String) (arrivals : List Arrival) :
    (chain target marker arrivals).map Passage.arrival? =
      arrivals.map some := by
  induction arrivals generalizing marker with
  | nil => rfl
  | cons arrival arrivals ih => exact congrArg _ (ih arrival.marker?)

/--
How a listing comes to its result, from what arrived before its last page and
what arrived last.  The relation is between the entries and the receipts.
-/
structure Paged (tells : List ListedPart → List Receipt → Prop)
    (before : List Arrival) (last : Arrival)
    (answer : Except Failure (List Receipt)) : Prop where
  /-- A page that another follows is sound and says that it does. -/
  goesOn : ∀ arrival ∈ before, arrival.IsSound ∧ arrival.GoesOn
  /-- A sound page that no other follows does not say so. -/
  ends : last.IsSound → ¬ last.GoesOn
  fails : ¬ last.IsSound → ∃ failure, answer = .error failure
  answers : last.IsSound → ∃ receipts, answer = .ok receipts ∧
    tells ((before ++ [last]).flatMap Arrival.entries) receipts

/-- What is told of the entries may be told of the receipts in order. -/
theorem Paged.sorted {before : List Arrival} {last : Arrival}
    {answer : Except Failure (List Receipt)}
    (paged : Paged (List.Forall₂ ListedPart.Reports) before last answer) :
    Paged ListedPart.Lists before last (answer.map Receipt.sorted) where
  goesOn := paged.goesOn
  ends := paged.ends
  fails unsound := by
    obtain ⟨failure, rfl⟩ := paged.fails unsound
    exact ⟨failure, rfl⟩
  answers sound := by
    obtain ⟨receipts, rfl, reports⟩ := paged.answers sound
    exact ⟨_, rfl, Receipt.lists_sorted reports⟩

/-- Pages follow one another by their markers, and are gathered in turn. -/
theorem Fetches.paged {target : Target} {marker : Option String}
    {log : List Passage} {answer : Except Failure (List Receipt)}
    (fetches : Fetches target marker log answer) :
    ∃ before last,
      log = Passage.chain target marker (before ++ [last]) ∧
        Paged (List.Forall₂ ListedPart.Reports) before last answer := by
  induction fetches with
  | @failed marker arrival failure refused =>
      have unsound : ¬ arrival.IsSound := by
        intro sound
        obtain ⟨receipts, received⟩ :
            ∃ receipts : List Receipt,
              (Request.list target).receive arrival = .ok receipts :=
          Arrival.isSound_iff.mp sound
        cases refused.symm.trans received
      exact ⟨[], arrival, rfl,
        { goesOn := fun _ member => by cases member
          ends := fun sound => absurd sound unsound
          fails := fun _ => ⟨failure, rfl⟩
          answers := fun sound => absurd sound unsound }⟩
  | @last marker arrival receipts read ends =>
      refine ⟨[], arrival, rfl,
        { goesOn := fun _ member => by cases member
          ends := fun _ => Arrival.not_goesOn_of_next? ends
          fails := fun unsound =>
            absurd (Arrival.isSound_iff.mpr ⟨receipts, read⟩) unsound
          answers := fun _ => ⟨receipts, rfl, ?_⟩ }⟩
      rw [List.nil_append, List.flatMap_singleton]
      exact Arrival.forall₂_reports read
  | @more marker next arrival receipts log answer read follows fetches ih =>
      obtain ⟨before, last, rfl, paged⟩ := ih
      obtain ⟨goesOn, marked⟩ := Arrival.goesOn_of_next? follows
      refine ⟨arrival :: before, last, ?_, ?_, paged.ends, ?_, ?_⟩
      · rw [List.cons_append, Passage.chain, marked]
      · intro other member
        rcases List.mem_cons.mp member with rfl | later
        · exact ⟨Arrival.isSound_iff.mpr ⟨receipts, read⟩, goesOn⟩
        · exact paged.goesOn other later
      · intro unsound
        obtain ⟨failure, rfl⟩ := paged.fails unsound
        exact ⟨failure, rfl⟩
      · intro sound
        obtain ⟨gathered, rfl, reports⟩ := paged.answers sound
        refine ⟨_, rfl, ?_⟩
        rw [List.cons_append, List.flatMap_cons]
        exact List.rel_append (Arrival.forall₂_reports read) reports

namespace Service

/-! ## Replies -/

/-- What the next requests for an object bring, one after another. -/
def deliveries (location : Location) :
    Nat → List Arrival → List Arrival
  | 0, _ => []
  | count + 1, replies =>
    (deliver location replies).1 ::
      deliveries location count (deliver location replies).2

/-- What arrives for pages is what the next requests bring. -/
theorem delivered_pages (service : Service) (target : Target)
    (marker : Option String) (gathered : List Receipt) :
    ∃ log,
      (service.pages target marker gathered).1.log = service.log ++ log ∧
        log.map Passage.arrival? =
          (deliveries target.location log.length service.replies).map
            some := by
  have step {service later : Service} {marker : Option String}
      {arrival : Arrival}
      (sent : service.send (.list target marker) = (later, arrival)) :
      deliver target.location service.replies =
        (arrival, later.replies) := by
    obtain ⟨rfl, rfl⟩ := Prod.mk.inj sent
    rfl
  induction service, marker, gathered using pages.induct target with
  | case1 service marker gathered later arrival sent failure refused =>
      rw [pages_eq, sent]
      simp only [refused]
      refine ⟨_, log_of_send sent, ?_⟩
      simp [deliveries, step sent]
  | case2 service marker gathered later arrival sent receipts ends read =>
      rw [pages_eq, sent]
      simp only [read, ends]
      refine ⟨_, log_of_send sent, ?_⟩
      simp [deliveries, step sent]
  | case3 service marker gathered later arrival sent receipts next follows
      read ih =>
      obtain ⟨log, logged, delivered⟩ := ih
      rw [pages_eq, sent]
      simp only [read, follows]
      refine ⟨⟨.list target marker, some arrival⟩ :: log, ?_, ?_⟩
      · rw [logged, log_of_send sent, List.append_assoc]
        rfl
      · rw [List.map_cons, delivered, List.length_cons, deliveries,
          step sent, List.map_cons]

/-- A listing leaves what its pages do. -/
theorem log_list (service : Service) (target : Target) :
    (service.list target).1.log =
      (service.pages target none []).1.log := by
  rw [list]
  generalize service.pages target none [] = asked
  obtain ⟨later, answer⟩ := asked
  cases answer <;> rfl

/-- What a listing leaves in the log, and how it comes to its result. -/
theorem paged_list (service : Service) (target : Target) :
    ∃ before last,
      (service.list target).1.log =
          service.log ++ Passage.chain target none (before ++ [last]) ∧
        before ++ [last] =
          deliveries target.location (before.length + 1)
            service.replies ∧
        Paged ListedPart.Lists before last (service.list target).2 := by
  obtain ⟨log, answer, fetches, logged, answered⟩ :=
    service.fetches_list target
  obtain ⟨before, last, rfl, paged⟩ := fetches.paged
  obtain ⟨others, also, delivered⟩ :=
    service.delivered_pages target none []
  rw [log_list] at logged
  obtain rfl := List.append_cancel_left (also.symm.trans logged)
  refine ⟨before, last, (log_list service target).trans logged, ?_, ?_⟩
  · have count : (Passage.chain target none (before ++ [last])).length =
        before.length + 1 := by
      rw [← List.length_map Passage.arrival?,
        Passage.map_arrival?_chain, List.length_map, List.length_append]
      rfl
    rw [Passage.map_arrival?_chain, count] at delivered
    exact List.map_injective_iff.mpr (Option.some_injective _) delivered
  · rw [answered]
    exact paged.sorted

/--
Where requests go straight to the service, its replies come one by one, and
the service fails a request for which there is none left.
-/
theorem prefix_of_deliveries {location : Location}
    (spelled : location.isBlank = false)
    (direct : location.bucket.route = .direct) {before : List Arrival}
    {last : Arrival} {replies : List Arrival}
    (delivered : before ++ [last] =
      deliveries location (before.length + 1) replies)
    (sound : ∀ arrival ∈ before, arrival.IsSound) :
    before ++ [last] <+: replies ++ [.error .service] := by
  have taken (replies : List Arrival) :
      deliver location replies = take replies := by
    rw [deliver, spelled, direct]
    rfl
  induction before generalizing replies with
  | nil =>
      rw [deliveries, taken] at delivered
      obtain rfl := (List.cons.inj delivered).1
      cases replies with
      | nil => exact List.prefix_rfl
      | cons reply replies => exact ⟨replies ++ [.error .service], rfl⟩
  | cons arrival before ih =>
      rw [List.length_cons, deliveries, taken] at delivered
      obtain ⟨first, rest⟩ := List.cons.inj delivered
      cases replies with
      | nil =>
          obtain ⟨page, arrived, _⟩ := sound arrival List.mem_cons_self
          rw [first] at arrived
          cases arrived
      | cons reply replies =>
          obtain rfl := first
          exact (List.prefix_cons_inj _).mpr (ih rest fun other member =>
            sound other (List.mem_cons_of_mem _ member))

end Service

/--
A listing asks for its first page without a marker, and for each page after
it with the marker of the page before.  It asks for another page exactly when
the last one is sound, truncated and has a marker, and it fails as soon as
one is not sound.  Otherwise it has the receipts of the entries of all pages,
each once, in ascending order of their numbers, those with one number as they
came.  What arrives is what the service replies, in turn.
-/
theorem listed_in_order (service : Service) {target : Target}
    (valid : (Request.list target).check = .ok ()) :
    let asked := service.serve (.list target)
    ∃ before last,
      asked.1.log =
          service.log ++ Passage.chain target none (before ++ [last]) ∧
        before ++ [last] =
          Service.deliveries target.location (before.length + 1)
            service.replies ∧
        (target.location.isBlank = false →
          target.location.bucket.route = .direct →
            before ++ [last] <+: service.replies ++ [.error .service]) ∧
        Paged ListedPart.Lists before last asked.2 := by
  intro asked
  have served : asked = service.list target := by
    have prepared : (Request.list target).prepare =
        .ok (.list target none) := by
      rw [Request.prepare, valid]
      rfl
    change service.serve (.list target) = _
    rw [Service.serve, prepared]
    rfl
  rw [served]
  obtain ⟨before, last, logged, delivered, paged⟩ :=
    service.paged_list target
  refine ⟨before, last, logged, delivered, ?_, paged⟩
  intro spelled direct
  exact Service.prefix_of_deliveries spelled direct delivered
    fun arrival member => (paged.goesOn arrival member).1

namespace Service

/-- The upload whose parts are listed below. -/
def mixedTarget : Target := ⟨⟨"upload-1"⟩, .ofPair "bucket" "key"⟩

/-- A page that another follows, with a size that is negative. -/
def mixedFirst : Arrival :=
  .ok (.listed (some
    { parts :=
        [{ number := some 3, tag := some "three", size := some (-5) },
          { number := some 1, tag := some "old", size := some 7 }]
      isTruncated := true
      nextMarker := some "3" }))

/-- A page that says that it is truncated, but not where the rest begins. -/
def mixedLast : Arrival :=
  .ok (.listed (some
    { parts :=
        [{ number := some 2, tag := some "two" },
          { number := some 1
            tag := some "one"
            checksums := { checksumCrc32 := some "sum" } }]
      isTruncated := true }))

/-- A service with one reply more than the listing takes. -/
def mixed : Service where
  replies := [mixedFirst, mixedLast, .ok (.listed (some {}))]

theorem log_mixed :
    (mixed.serve (.list mixedTarget)).1.log =
      [⟨.list mixedTarget none, some mixedFirst⟩,
        ⟨.list mixedTarget (some "3"), some mixedLast⟩] := by
  with_unfolding_all rfl

end Service

/-- Two pages are fetched, and what is listed are the entries of both. -/
theorem listed_mixed :
    (Request.list Service.mixedTarget).check = .ok () ∧
      ∃ receipts,
        (Service.mixed.serve (.list Service.mixedTarget)).2 =
            .ok receipts ∧
          ListedPart.Lists
            (Service.mixedFirst.entries ++ Service.mixedLast.entries)
            receipts := by
  have valid : (Request.list Service.mixedTarget).check = .ok () := by
    decide +kernel
  obtain ⟨before, last, logged, _, _, paged⟩ :=
    listed_in_order Service.mixed valid
  have arrived : before ++ [last] =
      [Service.mixedFirst] ++ [Service.mixedLast] := by
    have told := congrArg (List.map Passage.arrival?) logged
    rw [Service.log_mixed, List.map_append,
      Passage.map_arrival?_chain] at told
    exact (List.map_injective_iff.mpr (Option.some_injective _) told).symm
  obtain ⟨rfl, same⟩ := List.append_inj' arrived rfl
  obtain rfl := (List.cons.inj same).1
  have sound : Service.mixedLast.IsSound := by
    refine ⟨_, rfl, ?_⟩
    simp only [List.forall_mem_cons]
    exact ⟨⟨⟨2, rfl, by decide⟩, nofun⟩, ⟨⟨1, rfl, by decide⟩, nofun⟩,
      fun _ member => by cases member⟩
  exact ⟨valid, paged.answers sound⟩

end Multipart
