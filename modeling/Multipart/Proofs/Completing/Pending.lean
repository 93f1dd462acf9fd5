import Multipart.Proofs.Completing.Accounts

/-!
# What is still to come

As long as an upload goes on, of every part that was cut it had a receipt
from the beginning, or has recorded one, or has a request in flight.  That is
why no receipt is missing when the upload is completed.
-/

namespace Multipart

variable {World Content Phase : Type}

/-! ## Uploads that go on -/

/-- Holds of an upload that was not decided and has not resolved. -/
structure Upload.IsGoing (upload : Upload Content Phase) : Prop where
  running : upload.session.verdict = .running
  unresolved : upload.resolved = false

/-- What is still to come while an upload is going. -/
structure Pending (target : Target)
    (upload : Upload Content (Marked Phase)) (facts : List Event) :
    Prop where
  /-- A part that was cut has a receipt or is in flight. -/
  covered : ∀ number, 1 ≤ number.toNat →
    number.toNat ≤ upload.cutter.emitted →
      upload.session.progress.receipt? number ≠ none ∨
        number ∈ upload.pool.numbers
  /-- A request that was sent has succeeded or is in flight. -/
  sent : ∀ {aim number body}, .sent (.part aim number body) ∈ facts →
    (∃ receipt,
        .answered (.part aim number body) (.ok receipt) ∈ facts) ∨
      aim = target ∧ ∃ flight ∈ upload.pool.flights,
        flight.number = number ∧ flight.body = body
  clean : ∀ failure, .drew (.error failure) ∉ facts

variable {target : Target} {upload later : Upload Content (Marked Phase)}
  {facts : List Event}

namespace Upload

/-- An upload that fails goes on no more. -/
theorem not_isGoing_fail (host : Host World Content Phase)
    {upload : Upload Content Phase} {failure : Failure} :
    ¬ (upload.fail host failure).1.IsGoing := by
  intro going
  rw [fail] at going
  cases verdict : upload.session.verdict with
  | running =>
      rw [verdict] at going
      exact Verdict.noConfusion going.running
  | paused =>
      rw [verdict] at going
      exact Bool.noConfusion going.unresolved
  | failed =>
      rw [verdict] at going
      exact Bool.noConfusion going.unresolved

theorem isGoing_of_sendPart (host : Host World Content Phase)
    {upload : Upload Content Phase} {body : Bytes}
    (going : (upload.sendPart host body).IsGoing) : upload.IsGoing := by
  rw [sendPart] at going
  dsimp only at going
  split at going <;> exact ⟨going.running, going.unresolved⟩

/-- An upload that is still going has only moved its requests. -/
theorem Heard.moved_of_isGoing {upload later : Upload Content Phase}
    (heard : Heard upload later) (going : later.IsGoing) :
    upload.IsGoing ∧ later.pool.flights.Perm upload.pool.flights := by
  cases heard with
  | moved pool same => exact ⟨⟨going.running, going.unresolved⟩, same⟩
  | paused => exact Verdict.noConfusion going.running

end Upload

namespace Pending

/-- Facts may be added that tell of no other part and of no failure. -/
theorem add (pending : Pending target upload facts) {events : List Event}
    (sent : ∀ {aim number body},
      .sent (.part aim number body) ∈ events →
        aim = target ∧ ∃ flight ∈ upload.pool.flights,
          flight.number = number ∧ flight.body = body)
    (clean : ∀ failure, .drew (.error failure) ∉ events) :
    Pending target upload (facts ++ events) where
  covered := pending.covered
  sent member := by
    rcases List.mem_append.mp member with old | new
    · apply (pending.sent old).imp_left
      rintro ⟨receipt, answered⟩
      exact ⟨receipt, List.mem_append_left _ answered⟩
    · exact .inr (sent new)
  clean failure member :=
    (List.mem_append.mp member).elim (pending.clean failure)
      (clean failure)

/-- Requests may change their places and states. -/
theorem move (pending : Pending target upload facts)
    (progress : later.session.progress = upload.session.progress)
    (cutter : later.cutter = upload.cutter)
    (numbers : ∀ number ∈ upload.pool.numbers,
      number ∈ later.pool.numbers)
    (flights : ∀ flight ∈ upload.pool.flights,
      ∃ other ∈ later.pool.flights,
        other.number = flight.number ∧ other.body = flight.body) :
    Pending target later facts where
  covered number positive within := by
    rw [cutter] at within
    rw [progress]
    exact (pending.covered number positive within).imp_right
      (numbers number)
  sent member := by
    apply (pending.sent member).imp_right
    rintro ⟨rfl, flight, mem, rfl, rfl⟩
    exact ⟨rfl, flights flight mem⟩
  clean := pending.clean

theorem heard (pending : upload.IsGoing → Pending target upload facts)
    (heard : Upload.Heard upload later) (going : later.IsGoing) :
    Pending target later facts := by
  rcases heard.moved_of_isGoing going with ⟨before, same⟩
  refine (pending before).move ?_ heard.cutter
    (fun number => heard.numbers.mem_iff.mpr)
    fun flight member => ⟨flight, same.mem_iff.mpr member, rfl, rfl⟩
  rw [heard.session]

theorem setPhase (pending : Pending target upload facts)
    (number : PartNumber) (phase : Marked Phase) :
    Pending target
      (upload.withPool (upload.pool.setPhase number phase)) facts := by
  refine pending.move rfl rfl ?_ ?_
  · intro other member
    change other ∈ (upload.pool.setPhase number phase).numbers
    rwa [Pool.numbers_setPhase]
  · intro flight member
    refine ⟨Pool.setFlight number phase flight, ?_,
      Pool.number_setFlight _ _ _, Pool.body_setFlight _ _ _⟩
    change _ ∈ (upload.pool.setPhase number phase).flights
    rw [Pool.flights_setPhase]
    exact List.mem_map_of_mem member

/-- A part that has landed is covered by its receipt. -/
theorem keep (pending : Pending target upload facts)
    (distinct : upload.pool.numbers.Nodup) {flight : Flight (Marked Phase)}
    {receipt : Receipt} (member : flight ∈ upload.pool.flights)
    (same : receipt.number = flight.number) :
    Pending target (upload.keep flight.number receipt)
      (facts ++
        [.answered (.part target flight.number flight.body)
          (.ok receipt)]) := by
  have remains {other : Flight (Marked Phase)}
      (mem : other ∈ upload.pool.flights)
      (differs : other.number ≠ flight.number) :
      other ∈ (upload.pool.remove flight.number).flights := by
    rw [Pool.flights_remove]
    exact List.mem_filter.mpr ⟨mem, by simpa using differs⟩
  have receipts (number : PartNumber) :
      (upload.session.progress.record receipt).receipt? number =
        (upload.session.progress.existing.find? number).or
          (if number = flight.number then some receipt
            else upload.session.progress.recorded.find? number) := by
    rw [Progress.receipt?, Progress.find?_recorded_record, same]
    rfl
  constructor
  · intro number positive within
    change (upload.session.progress.record receipt).receipt? number ≠
      none ∨ number ∈ (upload.pool.remove flight.number).numbers
    by_cases landed : number = flight.number
    · left
      rw [receipts, if_pos landed]
      cases upload.session.progress.existing.find? number <;> simp
    · apply (pending.covered number positive within).imp
      · rw [receipts, if_neg landed]
        exact id
      · intro mem
        rcases List.mem_map.mp mem with ⟨other, old, rfl⟩
        exact List.mem_map_of_mem (remains old landed)
  · intro aim number body mem
    rcases List.mem_append.mp mem with old | new
    · rcases pending.sent old with ⟨found, answered⟩ |
        ⟨rfl, other, waits, rfl, rfl⟩
      · exact .inl ⟨found, List.mem_append_left _ answered⟩
      · by_cases landed : other.number = flight.number
        · obtain rfl :=
            List.inj_on_of_nodup_map distinct waits member landed
          exact .inl ⟨receipt, by simp⟩
        · exact .inr ⟨rfl, other, remains waits landed, rfl, rfl⟩
    · cases List.mem_singleton.mp new
  · intro failure mem
    rcases List.mem_append.mp mem with old | new
    · exact pending.clean failure old
    · cases List.mem_singleton.mp new

/-- A part that was cut is covered once it is sent or passed over. -/
theorem sendPart (pending : Pending target upload facts)
    (host : Host World Content (Marked Phase)) {cutter : Cutter Content}
    {body : Bytes}
    (next : upload.session.nextPart.toNat = upload.cutter.emitted + 1)
    (emitted : cutter.emitted = upload.cutter.emitted + 1) :
    Pending target ({ upload with cutter }.sendPart host body) facts := by
  have latest {number : PartNumber} (within : number.toNat ≤ cutter.emitted)
      (differs : number ≠ upload.session.nextPart) :
      number.toNat ≤ upload.cutter.emitted := by
    have away := mt PartNumber.toNat_inj.mp differs
    omega
  rw [Upload.sendPart]
  dsimp only
  split
  · rename_i had
    refine ⟨?_, pending.sent, pending.clean⟩
    intro number positive within
    by_cases fresh : number = upload.session.nextPart
    · left
      change upload.session.progress.receipt? number ≠ none
      rcases Option.isSome_iff_exists.mp had with ⟨receipt, found⟩
      rw [Progress.receipt?, fresh, show
        upload.session.progress.existing.find? upload.session.nextPart =
          some receipt from found]
      simp
    · exact pending.covered number positive (latest within fresh)
  · have numbers := (Pool.flights_push upload.pool
      ({ upload with cutter }.nextFlight host body)).map (·.number)
    refine ⟨?_, ?_, pending.clean⟩
    · intro number positive within
      by_cases fresh : number = upload.session.nextPart
      · right
        apply numbers.mem_iff.mpr
        rw [fresh]
        exact List.mem_cons_self
      · refine (pending.covered number positive (latest within fresh)).imp_right
          fun old => numbers.mem_iff.mpr (List.mem_cons_of_mem _ old)
    · intro aim number part member
      apply (pending.sent member).imp_right
      rintro ⟨rfl, flight, mem, same⟩
      exact ⟨rfl, flight, (Pool.flights_push _ _).mem_iff.mpr
        (List.mem_cons_of_mem _ mem), same⟩

end Pending

end Multipart
