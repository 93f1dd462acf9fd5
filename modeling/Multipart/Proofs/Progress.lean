import Multipart.Progress

/-!
# Receipts and the parts they are for

A receipt is kept under its own number, whatever part was asked for when it
came.  So what completes an upload names each part of the plan once, in
order, and a number without a receipt is found out.
-/

namespace Multipart

/-- Receipts for other parts do not count for a part. -/
theorem Receipt.last?_filter {keep : PartNumber → Bool}
    {number : PartNumber} (kept : keep number = true)
    (receipts : List Receipt) :
    last? (receipts.filter fun receipt => keep receipt.number) number =
      last? receipts number := by
  rw [last?]
  rw [← List.filter_reverse, List.find?_filter]
  refine congrArg (fun p => List.find? p receipts.reverse) ?_
  funext receipt
  by_cases same : receipt.number = number
  · simp [same, kept]
  · simp [same]

namespace Progress

/-- To begin with, a part has a receipt when one was given for it. -/
theorem find?_existing_eq_none {number : PartNumber}
    {receipts : List Receipt} :
    (ofReceipts receipts).existing.find? number = none ↔
      number ∉ receipts.map (·.number) := by
  rw [find?_existing_ofReceipts, Receipt.last?, List.find?_eq_none]
  simp

/-- Receipts for other parts make no difference to a part. -/
theorem find?_existing_filter {keep : PartNumber → Bool}
    {number : PartNumber} (kept : keep number = true)
    (receipts : List Receipt) :
    (ofReceipts (receipts.filter fun receipt =>
        keep receipt.number)).existing.find? number = none ↔
      number ∉ receipts.map (·.number) := by
  rw [find?_existing_ofReceipts, Receipt.last?_filter kept,
    ← find?_existing_ofReceipts, find?_existing_eq_none]

/-- The numbers of the parts that have a receipt of either kind. -/
def numbers (progress : Progress) : List PartNumber :=
  progress.existing.numbers ++ progress.recorded.numbers

/-- What is done is counted by number. -/
theorem length_numbers (progress : Progress) :
    progress.numbers.length = progress.done := by
  simp [numbers, done]

theorem mem_numbers {progress : Progress} {number : PartNumber} :
    number ∈ progress.numbers ↔
      progress.existing.find? number ≠ none ∨
        progress.recorded.find? number ≠ none := by
  rw [numbers, List.mem_append, PartTable.mem_numbers,
    PartTable.mem_numbers]

/-- What is numbered has a receipt. -/
theorem receipt?_ne_none {progress : Progress} {number : PartNumber}
    (member : number ∈ progress.numbers) :
    progress.receipt? number ≠ none := by
  rw [receipt?, ne_eq, Option.or_eq_none_iff]
  rintro ⟨old, new⟩
  exact (mem_numbers.mp member).elim (absurd old) (absurd new)

/-- No part is counted twice if none was recorded that was there before. -/
theorem nodup_numbers {progress : Progress}
    (apart : ∀ number, progress.recorded.find? number ≠ none →
      progress.existing.find? number = none) :
    progress.numbers.Nodup := by
  refine List.nodup_append.mpr ⟨PartTable.nodup_numbers _,
    PartTable.nodup_numbers _, fun left old right new same => ?_⟩
  subst same
  exact PartTable.mem_numbers.mp old
    (apart left (PartTable.mem_numbers.mp new))

/-- Holds when every receipt is kept under its own number. -/
structure Filed (progress : Progress) : Prop where
  existing : ∀ {number receipt},
    progress.existing.find? number = some receipt →
      receipt.number = number
  recorded : ∀ {number receipt},
    progress.recorded.find? number = some receipt →
      receipt.number = number

theorem filed_ofReceipts (receipts : List Receipt) :
    (ofReceipts receipts).Filed where
  existing found := by
    rw [find?_existing_ofReceipts] at found
    simpa using List.find?_some found
  recorded found := by
    simp [ofReceipts] at found

theorem Filed.record {progress : Progress} (filed : progress.Filed)
    (receipt : Receipt) : (progress.record receipt).Filed where
  existing found := filed.existing found
  recorded found := by
    rw [find?_recorded_record] at found
    split at found
    · rename_i same
      obtain rfl := Option.some.inj found
      exact same.symm
    · exact filed.recorded found

theorem Filed.number_eq {progress : Progress} (filed : progress.Filed)
    {number : PartNumber} {receipt : Receipt}
    (found : progress.receipt? number = some receipt) :
    receipt.number = number := by
  rw [receipt?] at found
  rcases Option.or_eq_some_iff.mp found with found | ⟨_, found⟩
  · exact filed.existing found
  · exact filed.recorded found

/-- What is collected are the receipts of the listed parts, in order. -/
theorem map_some_of_collect {progress : Progress}
    {numbers : List PartNumber} {receipts : List Receipt}
    (collected : progress.collect numbers = .ok receipts) :
    receipts.map some = numbers.map progress.receipt? := by
  induction numbers generalizing receipts with
  | nil =>
      obtain rfl := Except.ok.inj collected
      rfl
  | cons number numbers ih =>
      rw [collect] at collected
      split at collected
      · cases collected
      · rename_i receipt found
        split at collected
        · cases collected
        · rename_i rest tail
          obtain rfl := Except.ok.inj collected
          rw [List.map_cons, List.map_cons, found, ih tail]

/-- Nothing is collected only when a listed part has no receipt. -/
theorem receipt?_of_collect {progress : Progress}
    {numbers : List PartNumber} {missing : PartNumber}
    (collected : progress.collect numbers = .error missing) :
    missing ∈ numbers ∧ progress.receipt? missing = none := by
  induction numbers with
  | nil => cases collected
  | cons number numbers ih =>
      rw [collect] at collected
      split at collected
      · rename_i found
        obtain rfl := Except.error.inj collected
        exact ⟨List.mem_cons_self, found⟩
      · split at collected
        · rename_i other tail
          obtain rfl := Except.error.inj collected
          have rest := ih tail
          exact ⟨List.mem_cons_of_mem _ rest.1, rest.2⟩
        · cases collected

/-- What completes an upload names the parts of its plan in order. -/
theorem numbers_of_assemble {progress : Progress}
    (filed : progress.Filed) {plan : Plan} {receipts : List Receipt}
    (assembled : progress.assemble plan = .ok receipts) :
    receipts.map (·.number) = plan.numbers := by
  have each := map_some_of_collect assembled
  generalize plan.numbers = numbers at each
  clear assembled
  induction receipts generalizing numbers with
  | nil =>
      cases numbers with
      | nil => rfl
      | cons number numbers => cases each
  | cons receipt receipts ih =>
      cases numbers with
      | nil => cases each
      | cons number numbers =>
          simp only [List.map_cons, List.cons.injEq] at each ⊢
          have head := filed.number_eq each.1.symm
          exact ⟨head, ih numbers each.2⟩

end Progress

end Multipart
