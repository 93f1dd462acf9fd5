import Multipart.Proofs.Upload.Facts
import Multipart.Proofs.Upload.Sound

/-!
# What an upload owes to the facts

The receipts that an upload has recorded are the answers to its requests, and
what it counts as drawn was drawn.  Here this is an invariant between an
upload and the facts of its run, with a lemma for each thing that may become
of the upload.
-/

namespace Multipart

variable {World Content Phase : Type}

namespace Event

/-- Holds when the request that completes an upload is sent. -/
def closes : Event → Bool
  | .sent (.complete _ _) => true
  | _ => false

theorem eq_of_closes {event : Event} (closes : event.closes = true) :
    ∃ aim receipts, event = .sent (.complete aim receipts) := by
  unfold Event.closes at closes
  split at closes
  · exact ⟨_, _, rfl⟩
  · cases closes

/-- Holds of an event that neither closes an upload nor lands a part. -/
structure IsQuiet (event : Event) : Prop where
  opened : event.closes = false
  unlanded : event.lands = false

end Event

/-! ## What an upload owes to the facts -/

/-- What the facts of a run say of the receipts that an upload has. -/
structure Accounts (target : Target) (plan : Plan)
    (upload : Upload Content (Marked Phase)) (facts : List Event) :
    Prop where
  /-- A receipt that was recorded is the answer to a request for its part. -/
  recorded : ∀ {number receipt},
    upload.session.progress.recorded.find? number = some receipt →
      number.toNat ≤ upload.cutter.emitted ∧
        ∃ body, .answered (.part target number body) (.ok receipt) ∈ facts
  /-- A receipt that was answered is recorded. -/
  answered : ∀ {aim number body receipt},
    .answered (.part aim number body) (.ok receipt) ∈ facts →
      upload.session.progress.recorded.find? number = some receipt
  /-- A part in flight has no receipt yet. -/
  awaited : ∀ number ∈ upload.pool.numbers,
    upload.session.progress.recorded.find? number = none
  /-- The source has ended when every byte of the plan was drawn. -/
  ended : upload.session.sourceDone = true →
    .ended ∈ facts ∧ (drawn facts).length = plan.total
  gauge : upload.cutter.finished = false →
    upload.cutter.Gauge (drawn facts).length
  closing : ∀ closing, upload.closing = some closing →
    upload.session.sourceDone = true ∧
      closing.receipts.map some =
        plan.numbers.map upload.session.progress.receipt?
  /-- The request that completes the upload is yet to be sent. -/
  unsent :
    (upload.session.completing = false ∨
        ∃ closing, upload.closing = some closing ∧
          closing.phase.begun = false) →
      facts.countP Event.closes = 0
  once : facts.countP Event.closes ≤ 1

variable {target : Target} {plan : Plan} {existing : PartTable Receipt}
  {upload later : Upload Content (Marked Phase)} {facts : List Event}

theorem countP_append_of_isQuiet {events : List Event}
    (quiet : ∀ event ∈ events, event.IsQuiet) :
    (facts ++ events).countP Event.closes = facts.countP Event.closes := by
  have none : events.countP Event.closes = 0 :=
    List.countP_eq_zero.mpr fun event member closes =>
      Bool.false_ne_true ((quiet event member).opened.symm.trans closes)
  rw [List.countP_append, none]
  rfl

/-- Only a fact that lands a part tells of its receipt. -/
theorem mem_append_of_unlanded {events : List Event}
    (unlanded : ∀ event ∈ events, event.lands = false)
    {aim : Target} {number : PartNumber} {body : Bytes}
    {receipt : Receipt} :
    .answered (.part aim number body) (.ok receipt) ∈ facts ++ events ↔
      .answered (.part aim number body) (.ok receipt) ∈ facts := by
  rw [List.mem_append]
  refine or_iff_left fun member => ?_
  exact Bool.noConfusion (unlanded _ member)

namespace Accounts

/-- Facts may be added that land no part and tell of no bytes. -/
theorem add (accounts : Accounts target plan upload facts)
    {events : List Event}
    (unlanded : ∀ event ∈ events, event.lands = false)
    (dry : ∀ event ∈ events, event.bytes = [])
    (unsent :
      (upload.session.completing = false ∨
          ∃ closing, upload.closing = some closing ∧
            closing.phase.begun = false) →
        (facts ++ events).countP Event.closes = 0)
    (once : (facts ++ events).countP Event.closes ≤ 1) :
    Accounts target plan upload (facts ++ events) where
  recorded found := by
    rcases accounts.recorded found with ⟨below, body, member⟩
    exact ⟨below, body, List.mem_append_left _ member⟩
  answered member :=
    accounts.answered ((mem_append_of_unlanded unlanded).mp member)
  awaited := accounts.awaited
  ended done := by
    rw [drawn_append_of_dry facts dry]
    have ended := accounts.ended done
    exact ⟨List.mem_append_left _ ended.1, ended.2⟩
  gauge going := by
    rw [drawn_append_of_dry facts dry]
    exact accounts.gauge going
  closing := accounts.closing
  unsent := unsent
  once := once

/-- Quiet facts may be added that tell of no bytes. -/
theorem quiet (accounts : Accounts target plan upload facts)
    {events : List Event} (quiet : ∀ event ∈ events, event.IsQuiet)
    (dry : ∀ event ∈ events, event.bytes = []) :
    Accounts target plan upload (facts ++ events) := by
  have same : (facts ++ events).countP Event.closes =
      facts.countP Event.closes :=
    countP_append_of_isQuiet quiet
  refine accounts.add (fun event member => (quiet event member).unlanded)
    dry ?_ ?_
  · rw [same]
    exact accounts.unsent
  · rw [same]
    exact accounts.once

/-- An upload may change otherwise, as long as it adds no requests. -/
theorem reduce (accounts : Accounts target plan upload facts)
    (progress : later.session.progress = upload.session.progress)
    (cutter : later.cutter = upload.cutter)
    (sourceDone : later.session.sourceDone = upload.session.sourceDone)
    (completing : later.session.completing = upload.session.completing)
    (numbers : ∀ number ∈ later.pool.numbers,
      number ∈ upload.pool.numbers)
    (closing : ∀ closing, later.closing = some closing →
      ∃ old, upload.closing = some old ∧
        closing.receipts = old.receipts ∧
        (closing.phase.begun = false → old.phase.begun = false)) :
    Accounts target plan later facts where
  recorded found := by
    rw [progress] at found
    rw [cutter]
    exact accounts.recorded found
  answered member := by
    rw [progress]
    exact accounts.answered member
  awaited number member := by
    rw [progress]
    exact accounts.awaited number (numbers number member)
  ended done := accounts.ended (sourceDone.symm.trans done)
  gauge := by
    rw [cutter]
    exact accounts.gauge
  closing other closed := by
    rcases closing other closed with ⟨old, same, receipts, _⟩
    rw [progress, sourceDone, receipts]
    exact accounts.closing old same
  unsent yet := by
    refine accounts.unsent (yet.imp (completing.symm.trans ·) ?_)
    rintro ⟨other, closed, unbegun⟩
    rcases closing other closed with ⟨old, same, _, begun⟩
    exact ⟨old, same, begun unbegun⟩
  once := accounts.once

theorem heard (accounts : Accounts target plan upload facts)
    (heard : Upload.Heard upload later) :
    Accounts target plan later facts := by
  refine accounts.reduce ?_ heard.cutter heard.sourceDone ?_
    (fun number => heard.numbers.mem_iff.mp) ?_
  · rw [heard.session]
  · rw [heard.session]
  · intro closing closed
    rcases heard.closing with same | same
    · exact ⟨closing, same.symm.trans closed, rfl, id⟩
    · rw [same] at closed
      rcases Option.map_eq_some_iff.mp closed with ⟨old, was, rfl⟩
      exact ⟨old, was, rfl, id⟩

theorem settle (accounts : Accounts target plan upload facts)
    (number : PartNumber) :
    Accounts target plan (upload.settle number) facts := by
  refine accounts.reduce rfl rfl rfl rfl ?_
    fun closing closed => ⟨closing, closed, rfl, id⟩
  intro other member
  change other ∈ (upload.pool.remove number).flights.map _ at member
  rw [Pool.flights_remove] at member
  exact (List.filter_sublist.map _).subset member

theorem setPhase (accounts : Accounts target plan upload facts)
    (number : PartNumber) (phase : Marked Phase) :
    Accounts target plan
      (upload.withPool (upload.pool.setPhase number phase)) facts := by
  refine accounts.reduce rfl rfl rfl rfl ?_
    fun closing closed => ⟨closing, closed, rfl, id⟩
  intro other member
  change other ∈ (upload.pool.setPhase number phase).numbers at member
  rwa [Pool.numbers_setPhase] at member

theorem resolve (accounts : Accounts target plan upload facts) :
    Accounts target plan upload.resolve facts :=
  accounts.reduce rfl rfl rfl rfl (fun _ member => by cases member)
    fun closing closed => ⟨closing, closed, rfl, id⟩

theorem unclose (accounts : Accounts target plan upload facts) :
    Accounts target plan { upload with closing := none } facts :=
  accounts.reduce rfl rfl rfl rfl (fun _ member => member) nofun

theorem fail (accounts : Accounts target plan upload facts)
    (host : Host World Content (Marked Phase)) (failure : Failure) :
    Accounts target plan (upload.fail host failure).1 facts := by
  rw [Upload.fail]
  cases upload.session.verdict with
  | running =>
      exact accounts.reduce rfl rfl rfl rfl
        (fun _ member => by cases member)
        (fun _ closed => by cases closed)
  | paused => exact accounts.resolve
  | failed => exact accounts.resolve

/-- A receipt may be answered and kept. -/
theorem keep (accounts : Accounts target plan upload facts)
    (sound : upload.Sound target plan existing)
    {number : PartNumber} {body : Bytes} {receipt : Receipt}
    (member : number ∈ upload.pool.numbers)
    (same : receipt.number = number) :
    Accounts target plan (upload.keep number receipt)
      (facts ++ [.answered (.part target number body) (.ok receipt)]) where
  recorded {other found} entry := by
    change (upload.session.progress.record receipt).recorded.find? other =
      some found at entry
    rw [Progress.find?_recorded_record, same] at entry
    split at entry
    · obtain rfl := Option.some.inj entry
      rename_i equal
      subst equal
      rcases List.mem_map.mp member with ⟨flight, mem, rfl⟩
      exact ⟨(sound.sent flight mem).2.1, body, by simp⟩
    · rcases accounts.recorded entry with ⟨below, body, mem⟩
      exact ⟨below, body, List.mem_append_left _ mem⟩
  answered {aim other _ found} mem := by
    change (upload.session.progress.record receipt).recorded.find? other =
      some found
    rw [Progress.find?_recorded_record, same]
    rcases List.mem_append.mp mem with old | new
    · have entry := accounts.answered old
      have differs : other ≠ number := by
        rintro rfl
        rw [accounts.awaited _ member] at entry
        cases entry
      rw [if_neg differs, entry]
    · cases List.mem_singleton.mp new
      rw [if_pos rfl]
  awaited other mem := by
    change other ∈ (upload.pool.remove number).flights.map _ at mem
    rw [Pool.flights_remove] at mem
    rcases List.mem_map.mp mem with ⟨flight, kept, rfl⟩
    rcases List.mem_filter.mp kept with ⟨old, differs⟩
    change (upload.session.progress.record receipt).recorded.find?
      flight.number = none
    rw [Progress.find?_recorded_record, same,
      if_neg (by simpa using differs)]
    exact accounts.awaited _ (List.mem_map_of_mem old)
  ended done := by
    have ended := accounts.ended done
    rw [drawn_concat, Event.draw_of_dry rfl]
    exact ⟨List.mem_append_left _ ended.1, ended.2⟩
  gauge going := by
    rw [drawn_concat, Event.draw_of_dry rfl]
    exact accounts.gauge going
  closing closing closed := by
    have alone := (sound.closing closing closed).alone
    rw [Pool.numbers, alone] at member
    cases member
  unsent yet := by
    rw [List.countP_append]
    exact accounts.unsent yet
  once := by
    rw [List.countP_append]
    exact accounts.once

/-- The cutter may draw bytes and cut parts from them. -/
theorem withCutter (accounts : Accounts target plan upload facts)
    {cutter : Cutter Content} {events : List Event}
    (quiet : ∀ event ∈ events, event.IsQuiet)
    (unfinished : upload.session.sourceDone = false)
    (emitted : upload.cutter.emitted ≤ cutter.emitted)
    (gauge : cutter.finished = false →
      cutter.Gauge (drawn (facts ++ events)).length) :
    Accounts target plan { upload with cutter } (facts ++ events) where
  recorded found := by
    rcases accounts.recorded found with ⟨below, body, member⟩
    exact ⟨Nat.le_trans below emitted, body, List.mem_append_left _ member⟩
  answered member :=
    accounts.answered ((mem_append_of_unlanded
      fun event mem => (quiet event mem).unlanded).mp member)
  awaited := accounts.awaited
  ended done := by
    change upload.session.sourceDone = true at done
    rw [unfinished] at done
    cases done
  gauge := gauge
  closing := accounts.closing
  unsent yet := by
    rw [countP_append_of_isQuiet quiet]
    exact accounts.unsent yet
  once := by
    rw [countP_append_of_isQuiet quiet]
    exact accounts.once

/-- A part that was cut may be sent, if it has no receipt yet. -/
theorem push (accounts : Accounts target plan upload facts)
    (flight : Flight (Marked Phase))
    (fresh :
      upload.session.progress.recorded.find? flight.number = none) :
    Accounts target plan
      { upload with
        session := upload.session.beginPart flight.number
        pool := upload.pool.push flight } facts :=
  { accounts with
    awaited := fun number member => by
      have numbers := (Pool.flights_push upload.pool flight).map (·.number)
      rcases List.mem_cons.mp (numbers.mem_iff.mp member) with rfl | old
      · exact fresh
      · exact accounts.awaited number old }

/-- A part that was cut may be sent, or passed over. -/
theorem sendPart {cutter : Cutter Content} {body : Bytes}
    (accounts : Accounts target plan { upload with cutter } facts)
    (host : Host World Content (Marked Phase))
    (fresh :
      upload.session.progress.recorded.find? upload.session.nextPart =
        none) :
    Accounts target plan
      ({ upload with cutter }.sendPart host body) facts := by
  have skipped :
      Accounts target plan { upload with cutter }.skipPart facts :=
    accounts.reduce rfl rfl rfl rfl (fun _ member => member)
      fun closing closed => ⟨closing, closed, rfl, id⟩
  rw [Upload.sendPart]
  dsimp only
  split
  · exact skipped
  · exact skipped.push
      (Upload.nextFlight host { upload with cutter } body) fresh

/-- The source may end once every byte of the plan was drawn. -/
theorem endSource (accounts : Accounts target plan upload facts)
    (ended : .ended ∈ facts) (whole : (drawn facts).length = plan.total)
    (opened : upload.IsOpen) :
    Accounts target plan upload.endSource facts :=
  { accounts with
    ended := fun _ => ⟨ended, whole⟩
    closing := fun closing closed => by
      change upload.closing = some closing at closed
      rw [opened.unclosed] at closed
      cases closed }

/-- An upload may begin to be completed, with a request yet to be sent. -/
theorem close (accounts : Accounts target plan upload facts)
    (host : Host World Content Phase) {receipts : List Receipt}
    (planned : upload.session.plan = plan)
    (may : upload.session.mayComplete = true)
    (assembled :
      upload.session.progress.assemble upload.session.plan =
        .ok receipts) :
    Accounts target plan (upload.close host.recording receipts) facts := by
  simp only [Session.mayComplete, Bool.and_eq_true,
    Bool.not_eq_true'] at may
  have each := Progress.map_some_of_collect assembled
  rw [planned] at each
  exact
    { accounts with
      closing := fun closing closed => by
        obtain rfl := Option.some.inj closed
        exact ⟨may.1.1.1, each⟩
      unsent := fun _ => accounts.unsent (.inl may.2) }

/-- The request that completes an upload may be polled. -/
theorem poll_closing (accounts : Accounts target plan upload facts)
    {closing : Closing (Marked Phase)}
    (closed : upload.closing = some closing)
    (begun : upload.session.completing = true) (receipts : List Receipt) :
    Accounts target plan { upload with closing := none }
      (facts ++ closing.phase.facts (.complete target receipts)) := by
  rw [Marked.facts]
  split
  · rw [List.append_nil]
    exact accounts.unclose
  · rename_i first
    have unsent := accounts.unsent
      (.inr ⟨closing, closed, by simpa using first⟩)
    refine accounts.unclose.add ?_ ?_ ?_ ?_
    · intro event member
      rw [List.mem_singleton.mp member]
      rfl
    · intro event member
      rw [List.mem_singleton.mp member]
      rfl
    · rintro (yet | ⟨other, none, _⟩)
      · change upload.session.completing = false at yet
        rw [begun] at yet
        cases yet
      · cases none
    · rw [List.countP_append, unsent]
      exact Nat.le_refl 1

/-- The request that completes an upload may wait once it was sent. -/
theorem reclose (accounts : Accounts target plan upload facts)
    {closing : Closing (Marked Phase)}
    (done : upload.session.sourceDone = true)
    (each :
      closing.receipts.map some =
        plan.numbers.map upload.session.progress.receipt?)
    (begun : closing.phase.begun = true) :
    Accounts target plan { upload with closing := some closing } facts :=
  { accounts with
    closing := fun other same => by
      obtain rfl := Option.some.inj same
      exact ⟨done, each⟩
    unsent := fun yet => by
      refine accounts.unsent (yet.imp_right ?_)
      rintro ⟨other, same, unbegun⟩
      obtain rfl := Option.some.inj same
      rw [begun] at unbegun
      cases unbegun }

end Accounts

end Multipart
