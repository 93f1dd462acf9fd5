import Multipart.Proofs.Plan
import Multipart.Proofs.Progress
import Multipart.Proofs.Upload.Run

/-!
# Sound uploads

The fields of an upload depend on each other in ways that no single function
tells: the session numbers the parts that the cutter cuts, it counts the
requests that the pool holds, and what the upload waits for goes with how it
was decided.  All of this is gathered here in one invariant, and every step
of a poll keeps it on any host.
-/

namespace Multipart

variable {World Content Phase : Type}

namespace Pool

theorem perm_numbers {left right : Pool Phase}
    (same : left.flights.Perm right.flights) :
    left.numbers.Perm right.numbers :=
  same.map _

theorem size_eq_of_perm {left right : Pool Phase}
    (same : left.flights.Perm right.flights) : left.size = right.size := by
  rw [← length_flights, ← length_flights, same.length_eq]

/-- One request is taken out of a pool of distinct requests. -/
theorem size_remove {pool : Pool Phase} {number : PartNumber}
    (distinct : pool.numbers.Nodup) (member : number ∈ pool.numbers) :
    (pool.remove number).size = pool.size - 1 := by
  have once : pool.numbers.count number = 1 :=
    List.count_eq_one_of_mem distinct member
  have split := List.length_eq_countP_add_countP
    (fun flight : Flight Phase => flight.number = number)
    (l := pool.flights)
  have counted :
      pool.flights.countP (fun flight => flight.number = number) = 1 := by
    rw [← once, numbers, List.count_eq_countP, List.countP_map]
    rfl
  rw [← length_flights, ← length_flights, flights_remove,
    ← List.countP_eq_length_filter]
  simp only [counted, decide_not, decide_eq_true_eq] at split ⊢
  omega

/-- A pool that loses one of its requests becomes smaller. -/
theorem size_remove_lt {pool : Pool Phase} {number : PartNumber}
    (member : number ∈ pool.numbers) :
    (pool.remove number).size < pool.size := by
  rcases List.mem_map.mp member with ⟨flight, flying, rfl⟩
  rw [← length_flights, ← length_flights, flights_remove]
  exact List.length_filter_lt_length_iff_exists.mpr
    ⟨flight, flying, by simp⟩

/-- Of distinct requests just the one that is removed is missing. -/
theorem numbers_remove {pool : Pool Phase} (distinct : pool.numbers.Nodup)
    (number : PartNumber) :
    (pool.remove number).numbers = pool.numbers.erase number := by
  rw [distinct.erase_eq_filter, numbers, numbers, flights_remove,
    List.filter_map]
  exact congrArg _ (List.filter_congr fun flight _ => decide_not)

/-- A request that is sent is added to those in flight. -/
theorem numbers_push (pool : Pool Phase) (flight : Flight Phase) :
    (pool.push flight).numbers.Perm (flight.number :: pool.numbers) :=
  (flights_push pool flight).map _

theorem numbers_setPhase (pool : Pool Phase) (number : PartNumber)
    (phase : Phase) : (pool.setPhase number phase).numbers = pool.numbers := by
  rw [numbers]
  rw [flights_setPhase, List.map_map]
  exact List.map_congr_left fun flight _ => number_setFlight _ _ _

theorem size_setPhase (pool : Pool Phase) (number : PartNumber)
    (phase : Phase) : (pool.setPhase number phase).size = pool.size := by
  simp [setPhase, size]

end Pool

namespace Upload

/-- What is known of the request that completes an upload. -/
structure Closes (plan : Plan) (upload : Upload Content Phase)
    (closing : Closing Phase) : Prop where
  begun : upload.session.completing = true
  alone : upload.pool.flights = []
  judged : upload.session.verdict ≠ .failed
  cancelled :
    upload.session.verdict = .paused → closing.cancelled = true
  numbers : closing.receipts.map (·.number) = plan.numbers

/-- Holds of every upload that follows a plan and began with receipts. -/
structure Sound (target : Target) (plan : Plan)
    (existing : PartTable Receipt) (upload : Upload Content Phase) :
    Prop where
  aimed : upload.session.target = target
  planned : upload.session.plan = plan
  existed : upload.session.progress.existing = existing
  follows : upload.cutter.plan = plan
  /-- The next part has the number of its place in the content. -/
  next :
    upload.session.nextPart = PartNumber.ofNat (upload.cutter.emitted + 1)
  filed : upload.session.progress.Filed
  /-- Only parts that were cut and that the upload had not are sent. -/
  sent : ∀ flight ∈ upload.pool.flights,
    1 ≤ flight.number.toNat ∧
      flight.number.toNat ≤ upload.cutter.emitted ∧
      existing.find? flight.number = none
  distinct : upload.pool.numbers.Nodup
  counted :
    upload.resolved = false → upload.session.verdict ≠ .failed →
      upload.session.inFlight = upload.pool.size
  cancelled : ∀ flight ∈ upload.pool.flights,
    flight.cancelled = true → upload.session.verdict ≠ .running
  /-- A cutter that has ended has cut every part, or the upload fails. -/
  finished :
    upload.cutter.finished = true →
      upload.session.sourceDone = true ∨
        upload.session.verdict = .failed ∨ upload.resolved = true
  ended :
    upload.session.sourceDone = true →
      upload.cutter.emitted = plan.partCount.toNat
  aborting :
    upload.abort.isSome = true → upload.session.verdict = .failed
  failed :
    upload.session.verdict = .failed →
      upload.abort.isSome = true ∨ upload.resolved = true
  closing : ∀ closing, upload.closing = some closing →
    Closes plan upload closing
  completed :
    upload.session.completed = true → upload.resolved = true

variable {target : Target} {plan : Plan} {existing : PartTable Receipt}

/-- An upload that has not been polled is sound. -/
theorem sound_ofPlan (target : Target) (plan : Plan)
    (receipts : List Receipt) (limit : Option Nat) (content : Content) :
    (ofPlan target plan receipts limit content :
        Upload Content Phase).Sound target plan
      (Progress.ofReceipts
        (receipts.filter fun receipt =>
          plan.contains receipt.number)).existing where
  aimed := rfl
  planned := rfl
  existed := rfl
  follows := rfl
  next := rfl
  filed := Progress.filed_ofReceipts _
  sent _ member := by cases member
  distinct := List.nodup_nil
  counted _ _ := rfl
  cancelled _ member := by cases member
  finished ended := by cases ended
  ended done := by cases done
  aborting begun := by cases begun
  failed verdict := by cases verdict
  closing _ closed := by cases closed
  completed done := by cases done

namespace Sound

variable {upload : Upload Content Phase}

/-- Requests may change their places. -/
theorem withPool (sound : upload.Sound target plan existing)
    {pool : Pool Phase} (same : pool.flights.Perm upload.pool.flights) :
    (upload.withPool pool).Sound target plan existing :=
  { sound with
    sent := fun flight member =>
      sound.sent flight (same.mem_iff.mp member)
    distinct := (Pool.perm_numbers same).nodup_iff.mpr sound.distinct
    counted := fun unresolved judged => by
      rw [show (upload.withPool pool).pool.size = upload.pool.size from
        Pool.size_eq_of_perm same]
      exact sound.counted unresolved judged
    cancelled := fun flight member =>
      sound.cancelled flight (same.mem_iff.mp member)
    closing := fun closing closed =>
      { sound.closing closing closed with
        alone := List.perm_nil.mp
          ((sound.closing closing closed).alone ▸ same) } }

/-- A running upload may be paused. -/
theorem paused (sound : upload.Sound target plan existing)
    {pool : Pool Phase} (running : upload.session.verdict = .running)
    (same :
      pool.flights.Perm (upload.pool.flights.map Flight.cancel)) :
    (upload.paused pool).Sound target plan existing where
  aimed := sound.aimed
  planned := sound.planned
  existed := sound.existed
  follows := sound.follows
  next := sound.next
  filed := sound.filed
  sent flight member := by
    rcases List.mem_map.mp (same.mem_iff.mp member) with ⟨old, mem, rfl⟩
    exact sound.sent old mem
  distinct := by
    have numbers : pool.numbers.Perm upload.pool.numbers := by
      have names := same.map (·.number)
      rw [List.map_map] at names
      exact names
    exact numbers.nodup_iff.mpr sound.distinct
  counted unresolved _ := by
    have size : pool.size = upload.pool.size := by
      rw [← Pool.length_flights, same.length_eq, List.length_map,
        Pool.length_flights]
    have judged : upload.session.verdict ≠ .failed := by simp [running]
    exact (sound.counted unresolved judged).trans size.symm
  cancelled _ _ _ := Verdict.noConfusion
  finished ended := by
    rcases sound.finished ended with done | failed | resolved
    · exact .inl done
    · rw [running] at failed
      cases failed
    · exact .inr (.inr resolved)
  ended := sound.ended
  aborting begun := by
    have failed := sound.aborting begun
    rw [running] at failed
    cases failed
  failed := nofun
  closing later closed := by
    rcases Option.map_eq_some_iff.mp closed with ⟨closing, old, rfl⟩
    have closes := sound.closing closing old
    exact
      { begun := closes.begun
        alone := by
          have none := closes.alone
          rw [none] at same
          exact List.perm_nil.mp same
        judged := nofun
        cancelled := fun _ => rfl
        numbers := closes.numbers }
  completed done := sound.completed done

/-- Whatever a sound upload hears, it stays sound. -/
theorem heard (sound : upload.Sound target plan existing)
    {later : Upload Content Phase} (heard : Heard upload later) :
    later.Sound target plan existing := by
  cases heard with
  | moved pool same => exact sound.withPool same
  | paused pool running unfinished same =>
      exact sound.paused running same

/-- The client's state of a request may be replaced. -/
theorem setPhase (sound : upload.Sound target plan existing)
    (number : PartNumber) (phase : Phase) :
    (upload.withPool (upload.pool.setPhase number phase)).Sound
      target plan existing :=
  { sound with
    sent := fun flight member => by
      change flight ∈ (upload.pool.setPhase number phase).flights
        at member
      rw [Pool.flights_setPhase] at member
      rcases List.mem_map.mp member with ⟨old, mem, rfl⟩
      rw [Pool.number_setFlight]
      exact sound.sent old mem
    distinct := by
      change (upload.pool.setPhase number phase).numbers.Nodup
      rw [Pool.numbers_setPhase]
      exact sound.distinct
    counted := fun unresolved judged => by
      rw [show (upload.withPool
          (upload.pool.setPhase number phase)).pool.size =
            upload.pool.size from upload.pool.size_setPhase number phase]
      exact sound.counted unresolved judged
    cancelled := fun flight member flagged => by
      change flight ∈ (upload.pool.setPhase number phase).flights
        at member
      rw [Pool.flights_setPhase] at member
      rcases List.mem_map.mp member with ⟨old, mem, rfl⟩
      exact sound.cancelled old mem (by simpa using flagged)
    closing := fun closing closed =>
      { sound.closing closing closed with
        alone := by
          change (upload.pool.setPhase number phase).flights = []
          rw [Pool.flights_setPhase,
            (sound.closing closing closed).alone]
          rfl } }

/-- A request may resolve, whether or not its receipt is kept. -/
theorem settled (sound : upload.Sound target plan existing)
    {number : PartNumber} (member : number ∈ upload.pool.numbers)
    (progress : Progress) (filed : progress.Filed)
    (existed : progress.existing = existing) :
    { upload with
      pool := upload.pool.remove number
      session :=
        { upload.session with progress }.endPart number }.Sound
        target plan existing :=
  { sound with
    existed
    filed
    sent := fun flight mem => by
      rw [Pool.flights_remove] at mem
      exact sound.sent flight (List.mem_filter.mp mem).1
    distinct := by
      change (upload.pool.remove number).numbers.Nodup
      rw [Pool.numbers]
      rw [Pool.flights_remove]
      exact sound.distinct.sublist (List.filter_sublist.map _)
    counted := fun unresolved judged => by
      have size := Pool.size_remove sound.distinct member
      have before := sound.counted unresolved judged
      change upload.session.inFlight - 1 = _
      rw [size, before]
    cancelled := fun flight mem => by
      rw [Pool.flights_remove] at mem
      exact sound.cancelled flight (List.mem_filter.mp mem).1
    closing := fun closing closed =>
      { sound.closing closing closed with
        alone := by
          rw [Pool.flights_remove,
            (sound.closing closing closed).alone]
          rfl } }

theorem settle (sound : upload.Sound target plan existing)
    {number : PartNumber} (member : number ∈ upload.pool.numbers) :
    (upload.settle number).Sound target plan existing :=
  sound.settled member upload.session.progress sound.filed sound.existed

theorem keep (sound : upload.Sound target plan existing)
    {number : PartNumber} (member : number ∈ upload.pool.numbers)
    (receipt : Receipt) :
    (upload.keep number receipt).Sound target plan existing :=
  sound.settled member (upload.session.progress.record receipt)
    (sound.filed.record receipt) sound.existed

/-- An upload that resolves gives up its requests. -/
theorem resolve (sound : upload.Sound target plan existing) :
    upload.resolve.Sound target plan existing where
  aimed := sound.aimed
  planned := sound.planned
  existed := sound.existed
  follows := sound.follows
  next := sound.next
  filed := sound.filed
  sent _ member := by cases member
  distinct := List.nodup_nil
  counted := nofun
  cancelled _ member := by cases member
  finished _ := .inr (.inr rfl)
  ended := sound.ended
  aborting := sound.aborting
  failed _ := .inr rfl
  closing closing closed :=
    { sound.closing closing closed with alone := rfl }
  completed _ := rfl

/-- The request that completes an upload may be given up. -/
theorem unclose (sound : upload.Sound target plan existing) :
    { upload with closing := none }.Sound target plan existing :=
  { sound with closing := nofun }

/-- A failing upload is on its way to failure, or resolves. -/
theorem fail (sound : upload.Sound target plan existing)
    (host : Host World Content Phase) (failure : Failure) :
    (upload.fail host failure).1.Sound target plan existing := by
  rw [Upload.fail]
  cases upload.session.verdict with
  | running =>
      exact
        { aimed := sound.aimed
          planned := sound.planned
          existed := sound.existed
          follows := sound.follows
          next := sound.next
          filed := sound.filed
          sent := fun _ member => by cases member
          distinct := List.nodup_nil
          counted := fun _ judged => absurd rfl judged
          cancelled := fun _ member => by cases member
          finished := fun _ => .inr (.inl rfl)
          ended := sound.ended
          aborting := fun _ => rfl
          failed := fun _ => .inl rfl
          closing := fun _ closed => by cases closed
          completed := sound.completed }
  | paused => exact sound.resolve
  | failed => exact sound.resolve

/-- The cutter may take in what the source gives. -/
theorem withCutter (sound : upload.Sound target plan existing)
    {cutter : Cutter Content}
    (follows : cutter.plan = upload.cutter.plan)
    (emitted : cutter.emitted = upload.cutter.emitted)
    (finished :
      cutter.finished = true →
        upload.session.verdict = .failed ∨ upload.resolved = true) :
    { upload with cutter }.Sound target plan existing :=
  { sound with
    follows := follows.trans sound.follows
    next := by
      rw [emitted]
      exact sound.next
    sent := fun flight member => by
      rw [emitted]
      exact sound.sent flight member
    finished := fun ended => .inr (finished ended)
    ended := fun done => emitted.trans (sound.ended done)
    closing := fun closing closed =>
      { sound.closing closing closed with } }

/-- The cutter may come to its end when the source fails. -/
theorem spoil (sound : upload.Sound target plan existing)
    (host : Host World Content Phase) (failure : Failure)
    {cutter : Cutter Content}
    (follows : cutter.plan = upload.cutter.plan)
    (emitted : cutter.emitted = upload.cutter.emitted) :
    ({ upload with cutter }.fail host failure).1.Sound
      target plan existing := by
  have kept := upload.cutter_fail host failure
  have decided :
      (upload.fail host failure).1.session.verdict = .failed ∨
        (upload.fail host failure).1.resolved = true := by
    rw [Upload.fail]
    cases upload.session.verdict with
    | running => exact .inl rfl
    | paused => exact .inr rfl
    | failed => exact .inr rfl
  have same :
      ({ upload with cutter }.fail host failure).1 =
        { (upload.fail host failure).1 with cutter } := by
    rw [Upload.fail, Upload.fail]
    dsimp only
    cases upload.session.verdict <;> rfl
  rw [same]
  exact (sound.fail host failure).withCutter
    (follows.trans (congrArg Cutter.plan kept).symm)
    (emitted.trans (congrArg Cutter.emitted kept).symm)
    fun _ => decided

/-- The source may end once every part was cut. -/
theorem endSource (sound : upload.Sound target plan existing)
    {cutter : Cutter Content}
    (follows : cutter.plan = upload.cutter.plan)
    (emitted : cutter.emitted = upload.cutter.emitted)
    (complete : cutter.emitted = cutter.plan.partCount.toNat) :
    { upload with cutter }.endSource.Sound target plan existing :=
  { sound with
    follows := follows.trans sound.follows
    next := by
      have next := sound.next
      rw [← emitted] at next
      exact next
    sent := fun flight member => by
      have sent := sound.sent flight member
      rw [← emitted] at sent
      exact sent
    finished := fun _ => .inl rfl
    ended := fun _ => by
      rw [follows.trans sound.follows] at complete
      exact complete
    closing := fun closing closed =>
      { sound.closing closing closed with } }

/-- The number of the next part is above those of all parts sent. -/
theorem next_toNat (sound : upload.Sound target plan existing)
    {cutter : Cutter Content}
    (follows : cutter.plan = upload.cutter.plan)
    (emitted : cutter.emitted = upload.cutter.emitted + 1) :
    upload.session.nextPart.toNat = upload.cutter.emitted + 1 := by
  have bound := cutter.emitted_le
  have small := plan.partCount_lt
  rw [follows.trans sound.follows, emitted] at bound
  rw [sound.next, PartNumber.toNat_ofNat (by omega)]

/-- The number of a part that was cut may be taken. -/
theorem skipPart (sound : upload.Sound target plan existing)
    {cutter : Cutter Content} (opened : upload.IsOpen)
    (unfinished : upload.session.sourceDone = false)
    (follows : cutter.plan = upload.cutter.plan)
    (emitted : cutter.emitted = upload.cutter.emitted + 1)
    (finished : cutter.finished = false) :
    { upload with cutter }.skipPart.Sound target plan existing :=
  { sound with
    follows := follows.trans sound.follows
    next := by
      change upload.session.nextPart.next =
        PartNumber.ofNat (cutter.emitted + 1)
      rw [sound.next, PartNumber.next_ofNat, emitted]
    sent := fun flight member => by
      have sent := sound.sent flight member
      change _ ∧ _ ≤ cutter.emitted ∧ _
      exact ⟨sent.1, by omega, sent.2.2⟩
    finished := fun ended => by
      change cutter.finished = true at ended
      rw [finished] at ended
      cases ended
    ended := fun done => by
      change upload.session.sourceDone = true at done
      rw [unfinished] at done
      cases done
    closing := fun closing closed => by
      change upload.closing = some closing at closed
      rw [opened.unclosed] at closed
      cases closed }

/-- A request with the number of the part cut last may be sent. -/
theorem push (sound : upload.Sound target plan existing)
    (flight : Flight Phase) (opened : upload.IsOpen)
    (number : flight.number.toNat = upload.cutter.emitted)
    (positive : 0 < upload.cutter.emitted)
    (absent : existing.find? flight.number = none)
    (above : ∀ other ∈ upload.pool.flights,
      other.number.toNat < upload.cutter.emitted)
    (cancelled :
      flight.cancelled = true → upload.session.verdict ≠ .running) :
    { upload with
      session := upload.session.beginPart flight.number
      pool := upload.pool.push flight }.Sound target plan existing := by
  have flights := Pool.flights_push upload.pool flight
  exact
    { sound with
      sent := fun other member => by
        rcases List.mem_cons.mp (flights.mem_iff.mp member) with
          rfl | old
        · exact ⟨number ▸ positive, Nat.le_of_eq number, absent⟩
        · exact sound.sent other old
      distinct := by
        apply (flights.map (·.number)).nodup_iff.mpr
        refine List.nodup_cons.mpr ⟨?_, sound.distinct⟩
        intro member
        rcases List.mem_map.mp member with ⟨other, mem, same⟩
        have below := above other mem
        rw [same, number] at below
        exact Nat.lt_irrefl _ below
      counted := fun unresolved judged => by
        have before := sound.counted unresolved judged
        simp [Session.beginPart, before]
      cancelled := fun other member flagged => by
        rcases List.mem_cons.mp (flights.mem_iff.mp member) with
          rfl | old
        · exact cancelled flagged
        · exact sound.cancelled other old flagged
      closing := fun closing closed => by
        change upload.closing = some closing at closed
        rw [opened.unclosed] at closed
        cases closed }

/-- A part that was cut is sent, unless the upload had it before. -/
theorem sendPart (sound : upload.Sound target plan existing)
    (host : Host World Content Phase) {cutter : Cutter Content}
    {body : Bytes} (opened : upload.IsOpen)
    (unfinished : upload.session.sourceDone = false)
    (follows : cutter.plan = upload.cutter.plan)
    (emitted : cutter.emitted = upload.cutter.emitted + 1)
    (finished : cutter.finished = false) :
    ({ upload with cutter }.sendPart host body).Sound
      target plan existing := by
  have skipped :=
    sound.skipPart opened unfinished follows emitted finished
  have number := sound.next_toNat follows emitted
  rw [Upload.sendPart]
  dsimp only
  split
  · exact skipped
  · rename_i fresh
    have absent : existing.find? upload.session.nextPart = none := by
      rw [← sound.existed]
      simpa [PartTable.contains] using fresh
    refine skipped.push ({ upload with cutter }.nextFlight host body)
      ⟨opened.unaborted, opened.unclosed⟩ ?_ ?_ absent ?_ ?_
    · exact number.trans emitted.symm
    · change 0 < cutter.emitted
      omega
    · intro other member
      have sent := (sound.sent other member).2.1
      change other.number.toNat < cutter.emitted
      omega
    · intro flagged
      change upload.session.verdict ≠ .running
      simpa [nextFlight] using flagged

/-- An upload whose parts have all resolved may begin to be completed. -/
theorem close (sound : upload.Sound target plan existing)
    (host : Host World Content Phase) {receipts : List Receipt}
    (unresolved : upload.resolved = false)
    (may : upload.session.mayComplete = true)
    (assembled :
      upload.session.progress.assemble upload.session.plan =
        .ok receipts) :
    (upload.close host receipts).Sound target plan existing := by
  simp only [Session.mayComplete, Bool.and_eq_true,
    decide_eq_true_eq] at may
  rcases may with ⟨⟨⟨_, landed⟩, running⟩, _⟩
  have judged : upload.session.verdict ≠ .failed := by simp [running]
  have empty : upload.pool.flights = [] := by
    rw [sound.counted unresolved judged] at landed
    rw [← List.length_eq_zero_iff, Pool.length_flights]
    exact landed
  have numbers := Progress.numbers_of_assemble sound.filed assembled
  rw [sound.planned] at numbers
  exact
    { sound with
      closing := fun closing closed => by
        obtain rfl := Option.some.inj closed
        exact
          { begun := rfl
            alone := empty
            judged := judged
            cancelled := fun paused => by
              change upload.session.verdict = .paused at paused
              rw [running] at paused
              cases paused
            numbers := numbers } }

/-- Other changes leave what is known of an upload as it is. -/
theorem reopen (sound : upload.Sound target plan existing)
    (closing : Option (Closing Phase)) {abort : Option Phase}
    {failure : Option Failure}
    (closes : ∀ other, closing = some other → Closes plan upload other)
    (same : abort.isSome = upload.abort.isSome) :
    { upload with closing, abort, failure }.Sound
      target plan existing :=
  { sound with
    aborting := fun begun => sound.aborting (same.symm.trans begun)
    failed := fun failed =>
      (sound.failed failed).imp_left same.trans
    closing := fun other closed =>
      { closes other closed with } }

end Sound

/-- The request that completes an upload may be in another phase. -/
theorem Sound.rephase {upload : Upload Content Phase}
    (sound : upload.Sound target plan existing) (phase : Phase) :
    (upload.rephase phase).Sound target plan existing := by
  refine sound.reopen _ ?_ rfl
  intro other same
  obtain ⟨closing, closed, rfl⟩ := Option.map_eq_some_iff.mp same
  exact { sound.closing closing closed with }

/-- Until it resolves an upload that has failed is being aborted. -/
theorem Sound.begun {upload : Upload Content Phase}
    (sound : upload.Sound target plan existing)
    (unresolved : upload.resolved = false)
    (failed : upload.session.verdict = .failed) :
    upload.abort.isSome = true :=
  (sound.failed failed).resolve_right fun resolved => by
    cases unresolved.symm.trans resolved

/-- Until it resolves an upload has not completed. -/
theorem Sound.uncompleted {upload : Upload Content Phase}
    (sound : upload.Sound target plan existing)
    (unresolved : upload.resolved = false) :
    upload.session.completed = false := by
  cases completed : upload.session.completed with
  | false => rfl
  | true => cases unresolved.symm.trans (sound.completed completed)

/-- An upload that is aborted is not being completed. -/
theorem Sound.unclosed {upload : Upload Content Phase}
    (sound : upload.Sound target plan existing)
    (begun : upload.abort.isSome = true) : upload.closing = none := by
  cases closed : upload.closing with
  | none => rfl
  | some closing =>
      exact absurd (sound.aborting begun)
        (sound.closing closing closed).judged

/-- Whatever is heard while the abort is polled, it is still to come. -/
theorem Sound.begun_askAbort {host : Host World Content Phase}
    {place : Place World Content Phase}
    (sound : place.upload.Sound target plan existing) {phase : Phase}
    (begun : place.upload.abort = some phase) :
    let heard := (place.hear (host.askAbort place phase)).upload
    heard.closing = none ∧ heard.session.verdict = .failed := by
  intro heard
  have hears := place.heard (host.askAbort place phase)
  have still := sound.heard hears
  have aborts : heard.abort.isSome = true := by
    rw [hears.abort, begun]
    rfl
  exact ⟨still.unclosed aborts, still.aborting aborts⟩

/-- An upload that may cut a part has a cutter that goes on. -/
theorem Sound.unfinished {upload : Upload Content Phase}
    (sound : upload.Sound target plan existing)
    (unresolved : upload.resolved = false) (may : upload.MayCut) :
    upload.cutter.finished = false := by
  by_contra finished
  rcases sound.finished (by simpa using finished) with
    done | failed | resolved
  · rw [may.unfinished] at done
    cases done
  · rcases sound.failed failed with begun | resolved
    · rw [may.unaborted] at begun
      cases begun
    · rw [unresolved] at resolved
      cases resolved
  · rw [unresolved] at resolved
    cases resolved

/-- Every step of a poll keeps an upload sound. -/
theorem Sound.step {host : Host World Content Phase}
    {place later : Place World Content Phase} {outcome : Option Outcome}
    (sound : place.upload.Sound target plan existing)
    (unresolved : place.upload.resolved = false)
    (step : Step host place later outcome) :
    later.upload.Sound target plan existing := by
  cases step with
  | withdrawn opened front cancelled =>
      exact sound.settle
        (List.mem_map_of_mem (Pool.mem_flights_of_front front))
  | waiting opened front wanted answer =>
      exact (sound.heard (heard_heardPart host front)).setPhase _ _
  | recalled opened front wanted answer cancelled =>
      have heard := heard_heardPart host front
      apply ((sound.heard heard).setPhase _ _).settle
      change _ ∈ (Pool.setPhase _ _ _).numbers
      rw [Pool.numbers_setPhase, heard.numbers.mem_iff]
      exact List.mem_map_of_mem (Pool.mem_flights_of_front front)
  | received opened front wanted answer =>
      have heard := heard_heardPart host front
      exact (sound.heard heard).keep
        (heard.numbers.mem_iff.mpr
          (List.mem_map_of_mem (Pool.mem_flights_of_front front))) _
  | refused opened front wanted answer left =>
      have heard := heard_heardPart host front
      subst left
      exact ((sound.heard heard).settle
        (heard.numbers.mem_iff.mpr
          (List.mem_map_of_mem (Pool.mem_flights_of_front front)))).fail
            host _
  | resting => exact sound
  | starved may polled | snapped may polled =>
      have cut := Cutter.polled host polled
      have finished := cut.goesOn (sound.unfinished unresolved may)
      apply (sound.heard cut.heard).withCutter cut.follows cut.emitted
      intro ended
      cases ended.symm.trans finished
  | cut may polled =>
      have cut := Cutter.polled host polled
      have unfinished := cut.heard.sourceDone.trans may.unfinished
      exact (sound.heard cut.heard).sendPart host
        (may.toIsOpen.heard cut.heard) unfinished cut.follows cut.emitted
        (cut.goesOn (sound.unfinished unresolved may))
  | spoiled may polled =>
      have cut := Cutter.polled host polled
      exact (sound.heard cut.heard).spoil host _ cut.follows cut.emitted
  | exhausted may polled =>
      have cut := Cutter.polled host polled
      exact (sound.heard cut.heard).endSource cut.follows cut.emitted
        (cut.goesOn (sound.unfinished unresolved may)).2
  | closes opened may assembled =>
      exact sound.close host unresolved may assembled
  | stumbles opened may missing =>
      exact
        { sound with
          closing := fun closing closed => by
            change place.upload.closing = some closing at closed
            rw [opened.unclosed] at closed
            cases closed }
  | parks opened paused => exact sound.resolve
  | unclosed unaborted closed cancelled => exact sound.unclose.resolve
  | @closing closing _ unaborted closed wanted answer kept =>
      have heard := place.heard (host.askClosing place closing)
      have still := sound.heard heard
      refine still.reopen (some _) ?_ rfl
      rintro other same
      obtain rfl := Option.some.inj same
      rcases heard.closing with old | old
      · have closes := still.closing closing (old.trans closed)
        exact { closes with }
      · rw [old, closed] at kept
        cases kept
  | @reopened closing _ unaborted closed wanted answer cancelled =>
      have heard := place.heard (host.askClosing place closing)
      exact (sound.heard heard).unclose.resolve
  | @rejected closing _ _ unaborted closed wanted answer left =>
      have heard := place.heard (host.askClosing place closing)
      subst left
      exact (sound.heard heard).unclose.fail host _
  | @completes closing _ unaborted closed wanted answer =>
      have heard := place.heard (host.askClosing place closing)
      have still := (sound.heard heard).unclose.resolve
      exact { still with closing := nofun, completed := fun _ => rfl }
  | @collapsed closing =>
      have heard := place.heard (host.askClosing place closing)
      exact (sound.heard heard).rephase _
  | @aborting phase _ begun answer =>
      have heard := place.heard (host.askAbort place phase)
      have still := sound.heard heard
      apply still.reopen _ still.closing
      rw [heard.abort, begun]
      rfl
  | @aborted phase _ begun answered =>
      have heard := place.heard (host.askAbort place phase)
      have still := (sound.heard heard).resolve
      exact
        { still with
          aborting := nofun
          failed := fun _ => .inr rfl
          closing := fun closing closed =>
            { still.closing closing closed with } }

/-- Counting an upload as started keeps it sound. -/
theorem Sound.activate {place : Place World Content Phase}
    (sound : place.upload.Sound target plan existing) :
    place.activate.upload.Sound target plan existing :=
  { sound with
    closing := fun closing closed =>
      { sound.closing closing closed with } }

theorem Sound.poll (host : Host World Content Phase)
    {place : Place World Content Phase}
    (sound : place.upload.Sound target plan existing) :
    (place.poll host).1.upload.Sound target plan existing := by
  cases resolved : place.upload.resolved with
  | true =>
      rw [Place.poll_of_resolved host resolved]
      exact sound
  | false =>
      obtain ⟨middle, still, unresolved, last⟩ :=
        Place.poll_keeps
          (fun place => place.upload.Sound target plan existing)
          (fun sound unresolved step => sound.step unresolved step)
          resolved sound.activate
      exact still.step unresolved last

/-- The source of a sound upload may change. -/
theorem Sound.feed {place : Place World Content Phase}
    (sound : place.upload.Sound target plan existing)
    (feed : Content → Content) :
    (place.feed feed).upload.Sound target plan existing :=
  { sound with
    closing := fun closing closed =>
      { sound.closing closing closed with } }

/-- Every move keeps an upload sound. -/
theorem Sound.move (host : Host World Content Phase)
    {place : Place World Content Phase}
    (sound : place.upload.Sound target plan existing)
    (move : Move World Content) :
    (place.move host move).upload.Sound target plan existing := by
  cases move with
  | poll => exact sound.poll host
  | pause => exact sound.heard (heard_pause _)
  | wake number => exact sound.heard (heard_signal _ (.wakePart number))
  | change change => exact sound
  | feed feed => exact sound.feed feed

end Upload

end Multipart
