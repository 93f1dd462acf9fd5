import Multipart.Proofs.Cutter.Holding
import Multipart.Proofs.Cutter.Supplying

/-!
# The parts that are cut from a stream

However a finite stream is divided into buffers, and however often it has to
be waited for, a cutter answers its polls with the same parts: those of the
plan that the bytes of the stream reach.  Content that is not what it was
declared to be is told of by one failure after them, and after its last word
the cutter says nothing else.  The main statements are `cut_exactly`, for
content that fits its length, and `cut_until_flaw`, for all other content.
-/

namespace Multipart

variable {World Content : Type}

/-! ## The parts that bytes reach -/

namespace Plan

/-- What content has at the range of a part. -/
def excerpt (plan : Plan) (content : Bytes) (number : PartNumber) :
    Bytes :=
  match plan.range? number with
  | .ok (some range) => (content.drop range.start.toNat).take range.length
  | _ => []

/-- The numbers of the parts that end within so many bytes. -/
def numbersWithin (plan : Plan) (size : Nat) : List PartNumber :=
  plan.numbers.filter fun number =>
    match plan.range? number with
    | .ok (some range) => range.stop.toNat ≤ size
    | _ => false

variable {length size : UInt64}

theorem excerpt_eq_slice (exact : IsExact length size)
    {number : PartNumber}
    (contained : (ofLength length size).contains number = true)
    (content : Bytes) :
    (ofLength length size).excerpt content number =
      (ofLength length size).slice content (number.toNat - 1) := by
  obtain ⟨range, found, start, full⟩ := exists_range exact contained
  rw [excerpt, found, slice, ← start, ← full]

/-- The parts before the first that is not reached are all that are. -/
theorem numbersWithin_eq (exact : IsExact length size)
    {reached given : Nat}
    (among : reached ≤ (ofLength length size).partCount.toNat)
    (near : (ofLength length size).offset reached ≤ given)
    (far :
      reached = (ofLength length size).partCount.toNat ∨
        given < (ofLength length size).offset (reached + 1)) :
    (ofLength length size).numbersWithin given =
      (List.range reached).map
        fun index => PartNumber.ofNat (index + 1) := by
  have rises : Monotone (ofLength length size).offset :=
    monotone_nat_of_le_succ fun _ => Nat.le_add_right _ _
  have reaches (index : Nat)
      (within : index < (ofLength length size).partCount.toNat) :
      (ofLength length size).offset (index + 1) ≤ given ↔
        index < reached := by
    constructor
    · intro ends
      by_contra beyond
      rcases far with all | short
      · omega
      · have later := rises (show reached + 1 ≤ index + 1 by omega)
        omega
    · exact fun before => (rises before).trans near
  have filtered :
      (List.range (ofLength length size).partCount.toNat).filter
          (fun index => decide (index < reached)) =
        List.range reached := by
    obtain ⟨others, split⟩ := Nat.exists_eq_add_of_le among
    rw [split, List.range_add, List.filter_append,
      List.filter_eq_self.mpr, List.filter_eq_nil_iff.mpr,
      List.append_nil]
    · simp
    · simp
  rw [numbersWithin, numbers_eq, List.filter_map, ← filtered]
  refine congrArg (List.map _) (List.filter_congr fun index member => ?_)
  have within := List.mem_range.mp member
  obtain ⟨range, found, stop⟩ := stop_of_range? exact within
  simp only [Function.comp_apply, found, stop]
  exact decide_eq_decide.mpr (reaches index within)

end Plan

/-! ## Polls one after another -/

namespace Cutter

/-- Holds when a poll comes to something. -/
def Outcome.isAnswer : Outcome → Bool
  | .pending => false
  | _ => true

/--
Holds when a cutter answers its polls, in this order, as is expected, and
that it has ended ever after.  Only so many polls may come too early.
-/
def Answers (stream : Stream World Content) (world : World)
    (cutter : Cutter Content) (expected : List Outcome)
    (pendings : Nat) : Prop :=
  ∀ polls,
    let answers :=
      (cutter.outcomes stream polls world).filter Outcome.isAnswer
    answers <+: expected ++ List.replicate polls .ended ∧
      polls ≤ answers.length + pendings

/--
Holds when first polls of a cutter are answered, in this order, as is
expected.  Only so many of them may come too early.
-/
def Begins (stream : Stream World Content) (world : World)
    (cutter : Cutter Content) (expected : List Outcome)
    (pendings : Nat) : Prop :=
  ∃ polls ≤ expected.length + pendings,
    (cutter.outcomes stream polls world).filter Outcome.isAnswer = expected

/-- Holds when a cutter that was answered like this is the given one. -/
def Leads (stream : Stream World Content) (world : World)
    (cutter : Cutter Content) (expected : List Outcome)
    (pendings : Nat) (later : Cutter Content) : Prop :=
  ∃ polls ≤ expected.length + pendings,
    (cutter.outcomes stream polls world).filter Outcome.isAnswer =
        expected ∧
      (cutter.runs stream polls world).2 = later

section

variable (stream : Stream World Content) (world : World)
  (cutter : Cutter Content)

theorem length_outcomes (polls : Nat) :
    (cutter.outcomes stream polls world).length = polls := by
  induction polls generalizing world cutter with
  | zero => rfl
  | succ polls ih =>
      rw [outcomes, List.length_cons]
      exact congrArg Nat.succ (ih ..)

/-- Later polls are those of the cutter that earlier ones have left. -/
theorem outcomes_add (first second : Nat) :
    cutter.outcomes stream (first + second) world =
      let between := cutter.runs stream first world
      cutter.outcomes stream first world ++
        between.2.outcomes stream second between.1 := by
  induction first generalizing world cutter with
  | zero => rw [Nat.zero_add]; rfl
  | succ first ih =>
      rw [Nat.succ_add, outcomes]
      exact congrArg _ (ih ..)

/-- A cutter that has finished says so as often as it is polled. -/
theorem outcomes_of_finished (polls : Nat)
    (finished : cutter.finished = true) :
    cutter.outcomes stream polls world = List.replicate polls .ended := by
  induction polls with
  | zero => rfl
  | succ polls ih =>
      rw [outcomes, poll_of_finished stream world finished,
        List.replicate_succ]
      exact congrArg (Outcome.ended :: ·) ih

end

namespace Leads

variable {stream : Stream World Content} {world after : World}
  {cutter later last : Cutter Content} {expected : List Outcome}
  {pendings : Nat}

/-- A cutter that is not polled is left as it is. -/
theorem none : Leads stream world cutter [] 0 cutter :=
  ⟨0, Nat.le_refl _, rfl, rfl⟩

/-- A poll that comes too early is one less to come. -/
theorem wait (polled : cutter.poll stream world = (after, later, .pending))
    {fewer : Nat} (leads : Leads stream after later expected fewer last)
    (less : fewer < pendings) :
    Leads stream world cutter expected pendings last := by
  obtain ⟨polls, few, answered, left⟩ := leads
  refine ⟨polls + 1, by omega, ?_, ?_⟩
  · rwa [outcomes, polled, List.filter_cons_of_neg Bool.false_ne_true]
  · rwa [runs, polled]

/-- A poll that comes to something is the first to be answered. -/
theorem cons {outcome : Outcome}
    (polled : cutter.poll stream world = (after, later, outcome))
    (answer : outcome.isAnswer = true) {fewer : Nat}
    (leads : Leads stream after later expected fewer last)
    (less : fewer ≤ pendings) :
    Leads stream world cutter (outcome :: expected) pendings last := by
  obtain ⟨polls, few, answered, left⟩ := leads
  refine ⟨polls + 1, ?_, ?_, ?_⟩
  · rw [List.length_cons]
    omega
  · rw [outcomes, polled, List.filter_cons_of_pos answer, answered]
  · rwa [runs, polled]

theorem begins (leads : Leads stream world cutter expected pendings last) :
    Begins stream world cutter expected pendings := by
  obtain ⟨polls, few, answered, _⟩ := leads
  exact ⟨polls, few, answered⟩

/-- When the cutter has finished, these are all its answers. -/
theorem answers (leads : Leads stream world cutter expected pendings last)
    (finished : last.finished = true) :
    Answers stream world cutter expected pendings := by
  obtain ⟨enough, few, answered, rfl⟩ := leads
  intro polls
  rcases Nat.le_total polls enough with early | late
  · obtain ⟨others, rfl⟩ := Nat.exists_eq_add_of_le early
    rw [outcomes_add, List.filter_append] at answered
    have some := List.length_filter_le Outcome.isAnswer
      ((cutter.runs stream polls world).2.outcomes stream others
        (cutter.runs stream polls world).1)
    rw [length_outcomes] at some
    have many := congrArg List.length answered
    rw [List.length_append] at many
    refine ⟨?_, by omega⟩
    rw [← answered, List.append_assoc]
    exact List.prefix_append _ _
  · obtain ⟨others, rfl⟩ := Nat.exists_eq_add_of_le late
    rw [outcomes_add]
    simp only
    rw [outcomes_of_finished _ _ _ _ finished, List.filter_append, answered,
      List.filter_replicate_of_pos rfl, Nat.add_comm enough,
      List.replicate_add, ← List.append_assoc, List.length_append,
      List.length_replicate]
    exact ⟨List.prefix_append _ _, by omega⟩

end Leads

end Cutter

/-! ## What a cutter has before it -/

/--
What is wrong with content of which so many bytes are given before its stream
stops, with a failure or without.
-/
inductive Flaw (declared : UInt64) (given : Nat) (stop : Option Failure) :
    Failure → Prop where
  /-- There are more bytes than were declared. -/
  | excess {actual : UInt64} (more : declared < actual)
      (within : actual.toNat ≤ given) :
      Flaw declared given stop (.contentLength declared actual)
  /-- The stream fails before there are more. -/
  | failure {failure : Failure} (fits : given ≤ declared.toNat)
      (fails : stop = some failure) : Flaw declared given stop failure
  /-- The stream ends too early. -/
  | lack {actual : UInt64} (all : actual.toNat = given)
      (short : actual < declared) (clean : stop = none) :
      Flaw declared given stop (.contentLength declared actual)

namespace Cutter

/--
What is known of a cutter whose stream is going to give what is left of a
supply.
-/
structure Expects (stream : Stream World Content) (whole : Supply)
    (world : World) (cutter : Cutter Content) (supply : Supply) :
    Prop where
  supplies : stream.Supplies world cutter.content supply
  stops : supply.failure? = whole.failure?
  holds : ∃ parts given, cutter.Holds parts given ∧
    given ++ supply.bytes = whole.bytes ∧
    supply.overrun? cutter.plan.total given.length =
      whole.overrun? cutter.plan.total 0

/-- How the polls of a cutter end that has cut so many parts. -/
inductive Ends (plan : Plan) (whole : Supply) (reached : Nat) :
    Outcome → Prop where
  | whole (all : reached = plan.partCount.toNat)
      (fits : whole.bytes.length = plan.total)
      (clean : whole.failure? = none) :
      Ends plan whole reached .ended
  | flawed {failure : Failure}
      (far :
        reached = plan.partCount.toNat ∨
          whole.bytes.length < plan.offset (reached + 1))
      (flaw :
        Flaw plan.contentLength whole.bytes.length whole.failure? failure)
      (counts : whole.overrun? plan.total 0 = none) :
      Ends plan whole reached (.failed failure)
  | bursts {before : Nat}
      (near : plan.offset reached ≤ before)
      (far :
        reached = plan.partCount.toNat ∨
          before < plan.offset (reached + 1))
      (overruns : whole.overrun? plan.total 0 = some before) :
      Ends plan whole reached (.broken .addition)

/-- What a poll comes to, and what the cutter has before it then. -/
def Meets (stream : Stream World Content) (whole : Supply)
    (cutter : Cutter Content) (supply : Supply)
    (after : World) (later : Cutter Content) : Outcome → Prop
  | .pending =>
    ∃ rest, Expects stream whole after later rest ∧
      rest.pendings < supply.pendings
  | .part body =>
    ∃ rest, Expects stream whole after later rest ∧
      rest.pendings ≤ supply.pendings ∧
      body = cutter.plan.slice whole.bytes cutter.emitted ∧
      cutter.plan.offset (cutter.emitted + 1) ≤ whole.bytes.length
  | outcome => Ends cutter.plan whole cutter.emitted outcome

/-- Holds when the answers of a cutter end as they should. -/
def Reaches (stream : Stream World Content) (whole : Supply)
    (world : World) (cutter : Cutter Content) (pendings : Nat) : Prop :=
  ∃ reached last later,
    cutter.emitted ≤ reached ∧ reached ≤ cutter.plan.partCount.toNat ∧
      cutter.plan.offset reached ≤ whole.bytes.length ∧
      Ends cutter.plan whole reached last ∧ GoesOn later last ∧
      Leads stream world cutter
        ((List.range' cutter.emitted (reached - cutter.emitted)).map
            (fun index => .part (cutter.plan.slice whole.bytes index)) ++
          [last])
        pendings later

variable {stream : Stream World Content} {whole : Supply}
  {world : World} {cutter : Cutter Content} {supply : Supply}
  {length size : UInt64}

theorem Holds.offset_le_length {parts : List Bytes} {given : Bytes}
    (holds : cutter.Holds parts given) (rest : Bytes) :
    cutter.plan.offset cutter.emitted ≤ (given ++ rest).length := by
  rw [List.length_append, holds.measured]
  omega

/-- The part that is cut next begins no further than what was given. -/
theorem Gauge.near {given : Nat} (gauge : cutter.Gauge given) :
    cutter.plan.offset cutter.emitted ≤ given := by
  rw [gauge.measured]
  omega

/-- A cutter in need has cut all that its bytes reach. -/
theorem Gauge.far {given : Nat} (gauge : cutter.Gauge given)
    {beginning : Bytes} (needs : cutter.demand = .input beginning) :
    cutter.emitted = cutter.plan.partCount.toNat ∨
      given < cutter.plan.offset (cutter.emitted + 1) := by
  cases complete : cutter.isComplete with
  | true => exact .inl (of_decide_eq_true complete)
  | false => exact .inr (gauge.lt_offset needs complete)

/-- The last look of a poll decides what becomes of the supply. -/
theorem Expects.look {after : World} {later : Cutter Content}
    {outcome : Outcome}
    (exact : Plan.IsExact length size)
    (planned : cutter.plan = Plan.ofLength length size)
    (expects : Expects stream whole world cutter supply)
    (look : Look stream world cutter after later (some outcome)) :
    Meets stream whole cutter supply after later outcome := by
  rcases expects with ⟨supplies, stops, parts, given, holds, same, runs⟩
  have gauge := holds.toGauge
  have total :
      cutter.plan.total = cutter.plan.contentLength.toNat := by
    rw [planned]
    exact Plan.total_ofLength exact
  have within : given.length ≤ whole.bytes.length := by
    rw [← same, List.length_append]
    exact Nat.le_add_right _ _
  cases look with
  | @cuts body rest full =>
      refine ⟨supply,
        ⟨supplies, stops, _, _, holds.cut full, same, runs⟩,
        Nat.le_refl _, ?_, (gauge.offset_le full).trans within⟩
      rw [← same]
      exact holds.body_eq full _
  | exceeds beyond =>
      rcases gauge.total_lt beyond with ⟨complete, more⟩
      refine .flawed (.inl (of_decide_eq_true complete)) ?_ ?_
      · refine .excess (UInt64.lt_iff_toNat_lt.mpr ?_) ?_
        · rwa [gauge.received, ← total]
        · rwa [gauge.received]
      · rw [← runs]
        exact supply.overrun?_of_lt more
  | jams jammed =>
      exact absurd jammed (demand_ne_broken exact planned _)
  | @waits _ beginning content needs gives =>
      obtain ⟨rest, rfl, goesOn⟩ := supplies.eq_pending gives
      exact ⟨rest,
        ⟨goesOn, stops, _, _, holds.empty needs content, same, runs⟩,
        Nat.lt_succ_self _⟩
  | ends needs gives complete =>
      obtain rfl := supplies.eq_ended gives
      refine .whole (of_decide_eq_true complete) ?_ stops.symm
      rw [← same, Supply.bytes, List.append_nil]
      exact gauge.eq_total needs complete
  | lacks needs gives incomplete =>
      obtain rfl := supplies.eq_ended gives
      rw [Supply.bytes, List.append_nil] at same
      have short := gauge.lt_total needs incomplete
      refine .flawed (same ▸ gauge.far needs) ?_ runs.symm
      refine .lack (same ▸ gauge.received)
        (UInt64.lt_iff_toNat_lt.mpr ?_) stops.symm
      rwa [gauge.received, ← total]
  | breaks needs gives =>
      obtain rfl := supplies.eq_failed gives
      rw [Supply.bytes, List.append_nil] at same
      refine .flawed (same ▸ gauge.far needs) (.failure ?_ stops.symm)
        runs.symm
      rw [← same, ← total]
      exact gauge.le_total needs
  | bursts needs gives uncounted =>
      obtain ⟨rest, rfl, _⟩ := supplies.eq_given gives
      obtain ⟨rfl, large⟩ := Word.add_eq_error.mp uncounted
      refine .bursts gauge.near (gauge.far needs) ?_
      rw [gauge.received] at large
      rw [← runs, Supply.overrun?,
        if_neg (Nat.not_lt.mpr (gauge.le_total needs)), if_pos large]
  | @overflows _ beginning buffer content received smaller needs gives
      counted complete some =>
      obtain ⟨rest, rfl, _⟩ := supplies.eq_given gives
      have all := gauge.eq_total needs complete
      have positive := List.length_pos_iff.mpr some
      have sum := Word.add_eq_ok.mp counted
      rw [gauge.received] at sum
      refine .flawed (.inl (of_decide_eq_true complete)) ?_ ?_
      · refine .excess (UInt64.lt_iff_toNat_lt.mpr ?_) ?_
        · change _ < received.toNat
          omega
        · change received.toNat ≤ _
          rw [sum, ← same, Supply.bytes, List.length_append,
            List.length_append]
          omega
      · rw [← runs, Supply.overrun?,
          if_neg (Nat.not_lt.mpr (gauge.le_total needs)),
          if_neg (Nat.not_le.mpr (sum ▸ received.toNat_lt)),
          Supply.overrun?_of_lt _ (by omega)]

/-- A poll cuts the next part, ends as it should, or was too early. -/
theorem Expects.poll
    (exact : Plan.IsExact length size)
    (planned : cutter.plan = Plan.ofLength length size)
    (going : cutter.finished = false)
    (expects : Expects stream whole world cutter supply) :
    Meets stream whole cutter supply (cutter.poll stream world).1
      (cutter.poll stream world).2.1 (cutter.poll stream world).2.2 := by
  obtain ⟨middle, filled, ⟨plan, emitted, rest, still, fewer⟩, look⟩ :=
    poll_keeps
      (fun world filled =>
        filled.plan = cutter.plan ∧ filled.emitted = cutter.emitted ∧
          ∃ rest, Expects stream whole world filled rest ∧
            rest.pendings = supply.pendings)
      (by
        rintro world after filled beginning buffer content received smaller
          ⟨plan, emitted, rest, still, fewer⟩ needs gives counted _
        rcases still with ⟨supplies, stops, parts, given, holds, same, runs⟩
        obtain ⟨more, rfl, goesOn⟩ := supplies.eq_given gives
        have sum := Word.add_eq_ok.mp counted
        rw [holds.received] at sum
        refine ⟨plan, emitted, more, ⟨goesOn, stops, parts, _,
          holds.fill needs content counted, ?_, ?_⟩, fewer⟩
        · rw [List.append_assoc]
          exact same
        · rw [Supply.overrun?,
            if_neg (Nat.not_lt.mpr (holds.toGauge.le_total needs)),
            if_neg (Nat.not_le.mpr (sum ▸ received.toNat_lt)),
            ← List.length_append] at runs
          exact runs)
      going ⟨rfl, rfl, supply, expects, rfl⟩
  have meets := still.look exact (plan.trans planned) look
  generalize (cutter.poll stream world).2.2 = outcome at meets
  cases outcome with
  | pending =>
      rcases meets with ⟨next, expects, less⟩
      exact ⟨next, expects, fewer ▸ less⟩
  | part body =>
      rcases meets with ⟨next, expects, less, own, reaches⟩
      rw [plan, emitted] at own reaches
      exact ⟨next, expects, fewer ▸ less, own, reaches⟩
  | failed failure | ended | broken panic =>
      change Ends filled.plan _ filled.emitted _ at meets
      rwa [plan, emitted] at meets

/-- A cutter that ends at once has answered all there is. -/
theorem Ends.reaches {after : World} {later : Cutter Content}
    {last : Outcome} {pendings : Nat}
    (polled : cutter.poll stream world = (after, later, last))
    (goesOn : GoesOn later last)
    (near : cutter.plan.offset cutter.emitted ≤ whole.bytes.length)
    (ends : Ends cutter.plan whole cutter.emitted last) :
    Reaches stream whole world cutter pendings := by
  have answer : last.isAnswer = true := by cases ends <;> rfl
  refine ⟨cutter.emitted, last, later, Nat.le_refl _, cutter.emitted_le,
    near, ends, goesOn, ?_⟩
  rw [Nat.sub_self]
  exact .cons polled answer .none (Nat.zero_le _)

/--
A cutter answers with the parts that are left and with what it ends with.
The induction is on these parts and on how often the stream has still to be
waited for: each poll before the last uses up one of them.
-/
theorem Expects.reaches
    (exact : Plan.IsExact length size)
    (planned : cutter.plan = Plan.ofLength length size)
    (going : cutter.finished = false)
    (expects : Expects stream whole world cutter supply) :
    Reaches stream whole world cutter supply.pendings := by
  generalize measured :
    cutter.plan.partCount.toNat - cutter.emitted + supply.pendings = left
  induction left using Nat.strongRecOn generalizing world cutter supply with
  | ind left ih =>
      have counts := poll_cutter stream world cutter
      have goesOn := goesOn_poll stream world cutter going
      have meets := expects.poll exact planned going
      have near :
          cutter.plan.offset cutter.emitted ≤ whole.bytes.length := by
        obtain ⟨parts, given, holds, same, _⟩ := expects.holds
        exact same ▸ holds.offset_le_length supply.bytes
      generalize polled : cutter.poll stream world = result
        at counts goesOn meets
      rcases result with ⟨after, later, outcome⟩
      rcases counts with ⟨plan, emitted⟩
      dsimp only at plan emitted goesOn meets
      have bound := later.emitted_le
      cases outcome with
      | pending =>
          have emitted : later.emitted = cutter.emitted := emitted
          rcases meets with ⟨rest, later_expects, fewer⟩
          obtain ⟨reached, last, final, started, among, near, ends, closes,
              leads⟩ :=
            ih _ (by rw [← measured, plan, emitted]; omega)
              (plan.trans planned) goesOn later_expects rfl
          rw [plan] at among near ends leads
          rw [emitted] at started leads
          exact ⟨reached, last, final, started, among, near, ends, closes,
            leads.wait polled fewer⟩
      | part body =>
          have emitted : later.emitted = cutter.emitted + 1 := emitted
          rcases meets with ⟨rest, later_expects, fewer, own, _⟩
          rw [plan, emitted] at bound
          obtain ⟨reached, last, final, started, among, near, ends, closes,
              leads⟩ :=
            ih _ (by rw [← measured, plan, emitted]; omega)
              (plan.trans planned) goesOn later_expects rfl
          rw [plan] at among near ends leads
          rw [emitted] at started leads
          refine ⟨reached, last, final, by omega, among, near, ends, closes,
            ?_⟩
          rw [show reached - cutter.emitted =
            reached - (cutter.emitted + 1) + 1 by omega,
            List.range'_succ, List.map_cons, List.cons_append, ← own]
          exact leads.cons polled rfl fewer
      | failed failure => exact Ends.reaches polled goesOn near meets
      | ended => exact Ends.reaches polled goesOn near meets
      | broken panic => exact Ends.reaches polled goesOn near meets

/-- A cutter that has not been polled expects all that a stream gives. -/
theorem expects_ofPlan {content : Content} (plan : Plan)
    (supplies : stream.Supplies world content supply) :
    Expects stream supply world (ofPlan plan content) supply :=
  ⟨supplies, rfl, [], [], holds_ofPlan plan content, rfl, rfl⟩

end Cutter

/-! ## Content of any length -/

/-- The parts with these numbers, as a cutter answers with them. -/
def Plan.cuts (plan : Plan) (content : Bytes) (numbers : List PartNumber) :
    List Cutter.Outcome :=
  numbers.map fun number => .part (plan.excerpt content number)

section

variable {length size : UInt64}

theorem Plan.cuts_numbersWithin (exact : IsExact length size)
    {reached given : Nat} {content : Bytes}
    (among : reached ≤ (ofLength length size).partCount.toNat)
    (near : (ofLength length size).offset reached ≤ given)
    (far :
      reached = (ofLength length size).partCount.toNat ∨
        given < (ofLength length size).offset (reached + 1)) :
    (ofLength length size).cuts content
        ((ofLength length size).numbersWithin given) =
      (List.range reached).map
        fun index => .part ((ofLength length size).slice content index) := by
  have bound := (ofLength length size).partCount_lt
  rw [cuts, numbersWithin_eq exact among near far, List.map_map]
  refine List.map_congr_left fun index member => ?_
  have below := List.mem_range.mp member
  have number : (PartNumber.ofNat (index + 1)).toNat = index + 1 :=
    PartNumber.toNat_ofNat (by omega)
  have contained :
      (ofLength length size).contains (PartNumber.ofNat (index + 1)) =
        true := by
    rw [contains_iff, number]
    omega
  rw [Function.comp_apply, excerpt_eq_slice exact contained, number,
    Nat.add_sub_cancel]

/-- Content of the declared length reaches every part. -/
theorem Plan.numbersWithin_length (exact : IsExact length size) :
    (ofLength length size).numbersWithin length.toNat =
      (ofLength length size).numbers := by
  rw [numbersWithin_eq exact (Nat.le_refl _)
    (total_ofLength exact).le (.inl rfl), numbers_eq]

/-- A cutter answers with the parts that bytes reach, and then ends. -/
theorem Cutter.leads_ofPlan {stream : Stream World Content}
    {world : World} {content : Content} {supply : Supply}
    (exact : Plan.IsExact length size)
    (supplies : stream.Supplies world content supply) :
    let plan := Plan.ofLength length size
    ∃ reached last later,
      Ends plan supply reached last ∧ GoesOn later last ∧
        plan.offset reached ≤ supply.bytes.length ∧
        ∀ given,
          plan.offset reached ≤ given →
          (reached = plan.partCount.toNat ∨
            given < plan.offset (reached + 1)) →
          Leads stream world (ofPlan plan content)
            (plan.cuts supply.bytes (plan.numbersWithin given) ++ [last])
            supply.pendings later := by
  intro plan
  obtain ⟨reached, last, later, _, among, within, ends, goesOn, leads⟩ :=
    (expects_ofPlan plan supplies).reaches exact rfl rfl
  refine ⟨reached, last, later, ends, goesOn, within,
    fun given near far => ?_⟩
  rw [Plan.cuts_numbersWithin exact among near far, List.range_eq_range']
  exact leads

/--
Content of the declared length is cut into all the parts of its plan, each
with the bytes at its range.  Where its buffers end, and how often it has to
be waited for, makes no difference.
-/
theorem cut_exactly {stream : Stream World Content} {world : World}
    {content : Content} {supply : Supply}
    (exact : Plan.IsExact length size)
    (supplies : stream.Supplies world content supply)
    (clean : supply.failure? = none)
    (fits : supply.bytes.length = length.toNat) :
    let plan := Plan.ofLength length size
    Cutter.Answers stream world (.ofPlan plan content)
      (plan.cuts supply.bytes plan.numbers ++ [.ended])
      supply.pendings := by
  intro plan
  obtain ⟨reached, last, later, ends, goesOn, within, leads⟩ :=
    Cutter.leads_ofPlan exact supplies
  cases ends with
  | whole all =>
      have leads := leads length.toNat (fits ▸ within) (.inl all)
      rw [Plan.numbersWithin_length exact] at leads
      exact leads.answers goesOn.1
  | flawed _ flaw =>
      rw [fits, clean] at flaw
      cases flaw with
      | excess more within =>
          exact absurd (UInt64.lt_iff_toNat_lt.mp more)
            (Nat.not_lt.mpr within)
      | failure _ fails => cases fails
      | lack all short =>
          exact absurd (UInt64.lt_iff_toNat_lt.mp short)
            (Nat.not_lt.mpr all.ge)
  | bursts _ _ overruns =>
      have large := Supply.size_le_of_overrun? overruns
      rw [Nat.zero_add, fits] at large
      exact absurd length.toNat_lt (Nat.not_lt.mpr large)

/-- Buffers that straddle the parts, with an empty one among them. -/
theorem cut_mixed :
    let plan := Plan.ofLength 7 3
    let cutter := Cutter.ofPlan plan Supply.mixed
    cutter.outcomes Supply.stream 7 () =
        [.pending, .part [1, 2, 3], .part [4, 5, 6], .pending, .part [7],
          .ended, .ended] ∧
      Cutter.Answers Supply.stream () cutter
        (plan.cuts Supply.mixed.bytes plan.numbers ++ [.ended]) 2 :=
  ⟨by decide +kernel,
    cut_exactly ⟨by decide, by decide⟩ Supply.mixed.supplies_stream rfl
      rfl⟩

end

end Multipart
