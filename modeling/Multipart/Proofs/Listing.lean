import Mathlib.Data.List.Sort
import Multipart.Proofs.Plan
import Multipart.Proofs.Wire
import Multipart.Service

/-!
# Listings and their entries

A listing gathers the entries of all the pages that it fetches and puts them
in the order of their numbers, entries with one number in the order in which
they came.  What it answers are the receipts of these entries: the main
statement is `Service.fetches_list`.
-/

namespace Multipart

/-! ## Entries -/

/-- What is demanded is there. -/
theorem demand_eq_ok {α : Type} {requirement : Requirement}
    {value? : Option α} {value : α} :
    demand requirement value? = .ok value ↔ value? = some value := by
  cases value? <;> simp [demand]

/-- The order of receipts by their numbers, if there are two. -/
def Receipt.ordered : Except Failure Receipt → Except Failure Receipt → Bool
  | .ok left, .ok right => left.number.value ≤ right.number.value
  | _, _ => true

namespace ListedPart

/-- The number of an entry; an entry has none that is negative. -/
def rank (part : ListedPart) : Nat :=
  (part.number.getD 0).toNatClampNeg

/--
The entries in ascending order of their numbers; entries with one number keep
the order they had.
-/
def sorted (parts : List ListedPart) : List ListedPart :=
  parts.mergeSort fun left right => left.rank ≤ right.rank

/-- The last entry that a list has for a number. -/
def last? (parts : List ListedPart) (number : Nat) : Option ListedPart :=
  parts.reverse.find? fun part => part.rank = number

/-- The receipt of an entry says what the entry says. -/
structure Tells (part : ListedPart) (receipt : Receipt) : Prop where
  rank : part.rank = receipt.number.toNat
  tag : part.tag = some receipt.tag.text
  checksums : part.checksums = receipt.checksums.toWire

theorem tells_of_receipt {part : ListedPart} {receipt : Receipt}
    (made : part.receipt = .ok receipt) : part.Tells receipt := by
  rw [ListedPart.receipt] at made
  dsimp only at made
  split at made
  · cases made
  · cases made
  · rename_i number tag numbered tagged
    rw [demand_eq_ok, Option.filter_eq_some_iff] at numbered
    rw [demand_eq_ok] at tagged
    obtain rfl := Except.ok.inj made
    have small : number.toNatClampNeg < UInt32.size :=
      (Int32.toNatClampNeg_lt number).trans (by decide)
    exact
      { rank := by
          rw [PartNumber.toNat_ofNat small, rank, numbered.1]
          rfl
        tag := tagged
        checksums := rfl }

/-- The receipts of the entries in their order are in theirs. -/
theorem map_receipt_sorted {parts : List ListedPart}
    {receipts : List Receipt}
    (made : parts.map receipt = receipts.map .ok) :
    (sorted parts).map receipt = (Receipt.sorted receipts).map .ok := by
  rw [sorted, Receipt.sorted, List.map_mergeSort (s := Receipt.ordered),
    List.map_mergeSort (s := Receipt.ordered), made]
  · intro left first right second
    rfl
  · intro left first right second
    obtain ⟨one, _, same⟩ :
        ∃ receipt ∈ receipts, .ok receipt = left.receipt := by
      rw [← List.mem_map, ← made]
      exact List.mem_map_of_mem first
    obtain ⟨two, _, also⟩ :
        ∃ receipt ∈ receipts, .ok receipt = right.receipt := by
      rw [← List.mem_map, ← made]
      exact List.mem_map_of_mem second
    rw [← same, ← also, (tells_of_receipt same.symm).rank,
      (tells_of_receipt also.symm).rank]
    exact decide_eq_decide.mpr UInt32.le_iff_toNat_le.symm

/-- The last receipt for a number is that of the last entry for it. -/
theorem map_receipt_last? {parts : List ListedPart}
    {receipts : List Receipt}
    (made : parts.map receipt = receipts.map .ok) (number : PartNumber) :
    (last? parts number.toNat).map receipt =
      (Receipt.last? receipts number).map .ok := by
  rw [last?, Receipt.last?]
  replace made : parts.reverse.map receipt = receipts.reverse.map .ok := by
    rw [List.map_reverse, List.map_reverse, made]
  generalize parts.reverse = parts at made
  generalize receipts.reverse = receipts at made
  induction receipts generalizing parts with
  | nil =>
      cases List.map_eq_nil_iff.mp made
      rfl
  | cons receipt receipts ih =>
      cases parts with
      | nil => cases made
      | cons part parts =>
          obtain ⟨same, rest⟩ := List.cons.inj made
          have rank := (tells_of_receipt same).rank
          by_cases found : receipt.number = number
          · have also : part.rank = number.toNat := by rw [rank, found]
            rw [List.find?_cons_of_pos (by simpa using also),
              List.find?_cons_of_pos (by simpa using found)]
            exact congrArg some same
          · have also : part.rank ≠ number.toNat := by
              rw [rank, Ne, PartNumber.toNat_inj]
              exact found
            rw [List.find?_cons_of_neg (by simpa using also),
              List.find?_cons_of_neg (by simpa using found)]
            exact ih parts rest

end ListedPart

/-! ## Pages -/

/-- The entries that arrived. -/
def Passage.listed (passage : Passage) : List ListedPart :=
  match passage.arrival? with
  | some (.ok (.listed (some page))) => page.parts
  | _ => []

/-- How a listing goes on from a marker, and what it gathers. -/
inductive Fetches (target : Target) :
    Option String → List Passage → Except Failure (List Receipt) →
      Prop where
  | failed {marker : Option String} {arrival : Arrival}
      {failure : Failure}
      (refused : (Request.list target).receive arrival = .error failure) :
      Fetches target marker [⟨.list target marker, some arrival⟩]
        (.error failure)
  | last {marker : Option String} {arrival : Arrival}
      {receipts : List Receipt}
      (read : (Request.list target).receive arrival = .ok receipts)
      (ends : arrival.next? = none) :
      Fetches target marker [⟨.list target marker, some arrival⟩]
        (.ok receipts)
  | more {marker : Option String} {next : String} {arrival : Arrival}
      {receipts : List Receipt} {log : List Passage}
      {answer : Except Failure (List Receipt)}
      (read : (Request.list target).receive arrival = .ok receipts)
      (follows : arrival.next? = some next)
      (fetches : Fetches target (some next) log answer) :
      Fetches target marker (⟨.list target marker, some arrival⟩ :: log)
        (answer.map (receipts ++ ·))

namespace Fetches

variable {target : Target} {marker : Option String} {log : List Passage}
  {answer : Except Failure (List Receipt)}

/-- All that a listing sends asks for pages of its upload. -/
theorem wire (fetches : Fetches target marker log answer)
    {passage : Passage} (member : passage ∈ log) :
    ∃ marker, passage.wire = .list target marker := by
  induction fetches with
  | failed | last =>
      rw [List.mem_singleton.mp member]
      exact ⟨_, rfl⟩
  | more read follows fetches ih =>
      rcases List.mem_cons.mp member with rfl | later
      · exact ⟨_, rfl⟩
      · exact ih later

/-- The receipts of a page are those of its entries. -/
theorem map_receipt_listed {arrival : Arrival} {receipts : List Receipt}
    (read : (Request.list target).receive arrival = .ok receipts) :
    (Passage.listed ⟨.list target marker, some arrival⟩).map
        ListedPart.receipt =
      receipts.map .ok := by
  rw [← mapM_eq_ok]
  cases arrival with
  | error fault => cases read
  | ok reply =>
      cases reply with
      | listed page? =>
          cases page? with
          | none => cases read
          | some page => exact read
      | _ => cases read

/-- What a listing gathers are the receipts of all entries. -/
theorem gathers (fetches : Fetches target marker log answer)
    {receipts : List Receipt} (gathered : answer = .ok receipts) :
    (log.flatMap Passage.listed).map ListedPart.receipt =
      receipts.map .ok := by
  induction fetches generalizing receipts with
  | failed => cases gathered
  | last read =>
      obtain rfl := Except.ok.inj gathered
      rw [List.flatMap_singleton]
      exact map_receipt_listed read
  | @more _ _ _ receipts _ answer read follows fetches ih =>
      cases answer with
      | error failure => cases gathered
      | ok rest =>
          obtain rfl := Except.ok.inj gathered
          rw [List.flatMap_cons, List.map_append, List.map_append,
            ih rfl, map_receipt_listed read]

end Fetches

namespace Service

/-- A page is answered by itself, unless another follows. -/
theorem pages_eq (service : Service) (target : Target)
    (marker : Option String) (gathered : List Receipt) :
    service.pages target marker gathered =
      let (later, arrival) := service.send (.list target marker)
      match (Request.list target).receive arrival, arrival.next? with
      | .error failure, _ => (later, .error failure)
      | .ok (receipts : List Receipt), none =>
        (later, .ok (gathered ++ receipts))
      | .ok (receipts : List Receipt), some next =>
        later.pages target (some next) (gathered ++ receipts) := by
  rw [pages]
  grind

/-- What is sent is in the log, with what arrived for it. -/
theorem log_of_send {service later : Service} {wire : WireRequest}
    {arrival : Arrival} (sent : service.send wire = (later, arrival)) :
    later.log = service.log ++ [⟨wire, some arrival⟩] := by
  obtain ⟨rfl, rfl⟩ := Prod.mk.inj sent
  rfl

/-- What asking for pages leaves in the log, and what it answers. -/
theorem fetches_pages (service : Service) (target : Target)
    (marker : Option String) (gathered : List Receipt) :
    let asked := service.pages target marker gathered
    ∃ log answer, Fetches target marker log answer ∧
      asked.1.log = service.log ++ log ∧
      asked.2 = answer.map (gathered ++ ·) := by
  induction service, marker, gathered using pages.induct target with
  | case1 service marker gathered later arrival sent failure refused =>
      rw [pages_eq, sent]
      simp only [refused]
      exact ⟨_, _, .failed refused, log_of_send sent, rfl⟩
  | case2 service marker gathered later arrival sent receipts ends read =>
      rw [pages_eq, sent]
      simp only [read, ends]
      exact ⟨_, _, .last read ends, log_of_send sent, rfl⟩
  | case3 service marker gathered later arrival sent receipts next follows
      read ih =>
      obtain ⟨log, answer, fetches, logged, answered⟩ := ih
      rw [pages_eq, sent]
      simp only [read, follows]
      refine ⟨_, _, .more read follows fetches, ?_, ?_⟩
      · rw [logged, log_of_send sent, List.append_assoc]
        rfl
      · rw [answered]
        cases answer with
        | error failure => rfl
        | ok rest => exact congrArg Except.ok (List.append_assoc _ _ _)

/-- A listing leaves its pages in the log, and puts the receipts in order. -/
theorem fetches_list (service : Service) (target : Target) :
    let asked := service.list target
    ∃ log answer, Fetches target none log answer ∧
      asked.1.log = service.log ++ log ∧
      asked.2 = answer.map Receipt.sorted := by
  obtain ⟨log, answer, fetches, logged, answered⟩ :=
    service.fetches_pages target none []
  refine ⟨log, answer, fetches, ?_⟩
  rw [list]
  generalize service.pages target none [] = asked at logged answered ⊢
  obtain ⟨later, gathered⟩ := asked
  cases answer with
  | error failure =>
      obtain rfl := answered
      exact ⟨logged, rfl⟩
  | ok receipts =>
      obtain rfl := answered
      exact ⟨logged, rfl⟩

/-- The entries that arrived, in the order of their numbers. -/
def listed (service : Service) : List ListedPart :=
  ListedPart.sorted (service.log.flatMap Passage.listed)

end Service

end Multipart
