import Multipart.PartTable
import Multipart.Plan

/-!
# Which parts are done

A resumed upload starts with the receipts the store already had; they never
change.  The receipts of the parts sent since are recorded as they come, in
any order.
-/

namespace Multipart

/-- The receipts an upload started with and those it has recorded. -/
structure Progress where
  existing : PartTable Receipt := .empty
  recorded : PartTable Receipt := .empty

namespace Progress

/-- Start with receipts; of two for one part the later counts. -/
def ofReceipts (receipts : List Receipt) : Progress :=
  { existing :=
      PartTable.ofList
        (receipts.map fun receipt => (receipt.number, receipt)) }

/-- Record the receipt of a part that was sent. -/
def record (progress : Progress) (receipt : Receipt) : Progress :=
  { progress with
    recorded := progress.recorded.insert receipt.number receipt }

/-- How many parts are done. -/
def done (progress : Progress) : Nat :=
  progress.existing.size + progress.recorded.size

/-- The receipt of a part, the one it started with before one it recorded. -/
def receipt? (progress : Progress) (number : PartNumber) :
    Option Receipt :=
  (progress.existing.find? number).or (progress.recorded.find? number)

/-- The receipt of each listed part, or the first part that has none. -/
def collect (progress : Progress) :
    List PartNumber → Except PartNumber (List Receipt)
  | [] => .ok []
  | number :: numbers =>
    match progress.receipt? number with
    | none => .error number
    | some receipt =>
      match progress.collect numbers with
      | .error missing => .error missing
      | .ok receipts => .ok (receipt :: receipts)

/-- The receipts of every part of a plan, in order. -/
def assemble (progress : Progress) (plan : Plan) :
    Except PartNumber (List Receipt) :=
  progress.collect plan.numbers

/-! ## Where a receipt comes from -/

/-- Of the receipts an upload starts with, the last for a part counts. -/
theorem find?_existing_ofReceipts
    (receipts : List Receipt) (number : PartNumber) :
    (ofReceipts receipts).existing.find? number =
      Receipt.last? receipts number := by
  simp only [ofReceipts, PartTable.find?_ofList, Receipt.last?,
    ← List.map_reverse, List.find?_map]
  simp [Function.comp_def, Option.map_map]

@[simp]
theorem existing_record (progress : Progress) (receipt : Receipt) :
    (progress.record receipt).existing = progress.existing :=
  rfl

@[simp]
theorem find?_recorded_record
    (progress : Progress) (receipt : Receipt) (number : PartNumber) :
    (progress.record receipt).recorded.find? number =
      if number = receipt.number then some receipt
      else progress.recorded.find? number := by
  simp [record]

end Progress

end Multipart
