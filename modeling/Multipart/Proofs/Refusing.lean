import Multipart.Proofs.Completing
import Multipart.Proofs.Upload.Measured

/-!
# Content that does not fit its length

An upload declares the length of its content.  When its source ends too early
or too late, or fails on the way, nothing becomes of the upload but a
failure, however many of its parts were sent or had been there before.  The
main statement is `refused_content`.
-/

namespace Multipart

variable {World Content Phase : Type} {target : Target} {plan : Plan}
  {existing : PartTable Receipt}

/-! ## What takes the whole content -/

/--
Holds when an upload has failed, or has not resolved for now.  A poll breaks
off where more bytes were given than a word can count.
-/
def Outcome.Wants (facts : List Event) : Outcome → Prop
  | .pending => True
  | .resolved (.error _) => True
  | .resolved (.ok _) => False
  | .faulted .alreadyResolved => True
  | .faulted (.noReceipt _ _) => False
  | .faulted (.panicked panic) =>
    panic = .addition ∧
      UInt64.size ≤ (facts.flatMap Event.bytes).length

/-- Holds of an event that may come without the whole content. -/
def Event.Wants (facts : List Event) : Event → Prop
  | .sent (.complete _ _) => False
  | .returned outcome => outcome.Wants facts
  | _ => True

/-- What goes beyond a failure happens after the whole content was drawn. -/
def Founded (total : Nat) (before : History) (next : Moment) : Prop :=
  ¬ next.event.Wants before.facts → Whole total before.facts

theorem Founded.of_wants {total : Nat} {before : History} {next : Moment}
    (wants : next.event.Wants before.facts) : Founded total before next :=
  fun founded => absurd wants founded

theorem Event.wants_of_isHeard {event : Event} (facts : List Event)
    (heard : event.isHeard = true) : event.Wants facts := by
  cases event with
  | sent => cases heard
  | returned => cases heard
  | _ => exact trivial

/-- Only the request that completes an upload takes the whole content. -/
theorem Marked.wants_event (marked : Marked Phase) {request : Request}
    (facts : List Event) (opened : (Event.sent request).closes = false) :
    (marked.event request).Wants facts := by
  rw [event]
  split
  · exact trivial
  · cases request with
    | complete => cases opened
    | _ => exact trivial

/-- A failing upload wants for its content. -/
theorem Upload.wants_fail (host : Host World Content Phase)
    {upload : Upload Content Phase} {failure : Failure} {outcome : Outcome}
    (resolves : some outcome = (upload.fail host failure).2)
    (facts : List Event) : outcome.Wants facts := by
  obtain ⟨ending, rfl⟩ := Upload.outcome_fail host resolves
  exact trivial

namespace Regular

variable {host : Host World Content Phase}
  {place later : Place (Recorded World) Content (Marked Phase)}

/-- A request may be polled; that which completes an upload comes last. -/
theorem founded_polls (regular : Regular target plan existing place)
    (request : Request) (marked : Marked Phase)
    (polls : place.upload.Polls request marked) :
    Founded plan.total place.world.history
      ⟨place.upload.session, marked.event request⟩ := by
  intro founded
  cases polls with
  | part => exact absurd (Marked.wants_event _ _ rfl) founded
  | closing unaborted closed wanted =>
      exact (regular.measured.ended
        (regular.measured.closing (by rw [closed]; rfl))).1
  | abort => exact absurd (Marked.wants_event _ _ rfl) founded

/-- A poll that ends otherwise than with a failure has the whole content. -/
theorem whole_of_step {outcome : Outcome} {length size : UInt64}
    (exact : Plan.IsExact length size)
    (regular : Regular target (.ofLength length size) existing place)
    (unresolved : place.upload.resolved = false)
    (step : Step host.recording place later (some outcome))
    (founded : ¬ outcome.Wants later.world.facts) :
    Whole (Plan.ofLength length size).total place.world.facts := by
  generalize last : some outcome = final at step
  have wants (resolves : outcome.Wants later.world.facts) :
      Whole (Plan.ofLength length size).total place.world.facts :=
    absurd resolves founded
  have closes (closing : place.upload.closing.isSome = true) :=
    (regular.measured.ended (regular.measured.closing closing)).1
  cases step with
  | refused => exact wants (Upload.wants_fail host.recording last _)
  | spoiled => exact wants (Upload.wants_fail host.recording last _)
  | rejected => exact wants (Upload.wants_fail host.recording last _)
  | stumbles opened may missing =>
      simp only [Session.mayComplete, Bool.and_eq_true] at may
      exact (regular.measured.ended may.1.1.1).1
  | completes unaborted closed => exact closes (by rw [closed]; rfl)
  | collapsed unaborted closed => exact closes (by rw [closed]; rfl)
  | @snapped after cutter panic may polled =>
      obtain rfl := Option.some.inj last
      have going := regular.sound.unfinished unresolved may
      have cut := Cutter.polled host.recording polled
      obtain ⟨_, jammed | large⟩ := Cutter.yields_of_polled
        (regular.measured.gauged going).toGauge going polled
      · have planned : cutter.plan = .ofLength length size := by
          rw [cut.follows, cut.heard.cutter]
          exact regular.sound.follows
        exact absurd jammed (Cutter.demand_ne_broken exact planned panic)
      · exact wants large
  | withdrawn | waiting | recalled | received | cut | exhausted | closes =>
      cases last
  | _ =>
      obtain rfl := Option.some.inj last
      exact wants trivial

end Regular

/-! ## Every run -/

/-- What is known of a recorded upload and its history. -/
structure Founded.Kept (target : Target) (plan : Plan)
    (existing : PartTable Receipt)
    (place : Place (Recorded World) Content (Marked Phase)) : Prop where
  regular : Regular target plan existing place
  founded : place.world.history.Always (Founded plan.total)

/-- Every run is founded on the whole content. -/
theorem Founded.keeps {length size : UInt64}
    (exact : Plan.IsExact length size) (host : Host World Content Phase) :
    Keeps host (Founded.Kept target (.ofLength length size) existing)
      (Founded.Kept target (.ofLength length size) existing) where
  activate kept _ := ⟨kept.regular.activate, kept.founded⟩
  step kept unresolved step :=
    ⟨kept.regular.step unresolved step,
      kept.founded.step
        (fun _ _ _ heard => .of_wants (Event.wants_of_isHeard _ heard))
        kept.regular.founded_polls step⟩
  returns {place later outcome} kept unresolved last := by
    have grows := last.grows
    have founded := kept.founded.step
      (fun _ _ _ heard => .of_wants (Event.wants_of_isHeard _ heard))
      kept.regular.founded_polls last
    refine ⟨(kept.regular.step unresolved last).note rfl,
      History.always_concat founded fun beyond => ?_⟩
    rcases grows with ⟨given, same⟩
    have whole :=
      kept.regular.whole_of_step exact unresolved last beyond
    change Whole _ later.world.facts
    rw [same]
    exact whole.append given
  again kept resolved :=
    ⟨kept.regular.note rfl,
      History.always_concat kept.founded (.of_wants trivial)⟩
  pause {place} kept :=
    ⟨(kept.regular.heard (Upload.heard_pause _)).note rfl,
      History.always_concat kept.founded (.of_wants trivial)⟩
  wake number kept :=
    ⟨kept.regular.heard (Upload.heard_signal _ (.wakePart number)),
      kept.founded⟩
  change change kept := ⟨kept.regular.change _, kept.founded⟩
  feed feed kept := ⟨kept.regular.feed feed, kept.founded⟩

/-! ## The fate of unfit content -/

/-- What the source has given can be told from all events of a history. -/
theorem History.whole_events {total : Nat} {history : History}
    (whole : Whole total history.facts) : Whole total history.events := by
  rcases whole with ⟨facts, others, split, length, clean⟩
  obtain ⟨_, _, same, early, late⟩ := List.filter_eq_append_iff.mp split
  obtain ⟨front, rest, _, rfl, rfl⟩ := List.map_eq_append_iff.mp same
  obtain ⟨idle, back, again, none, _, _⟩ :=
    List.filter_eq_cons_iff.mp late
  have whole := History.drawn_facts front
  rw [show History.facts front = facts from early] at whole
  refine ⟨History.events front ++ idle, back, ?_, ?_, ?_⟩
  · rw [List.append_assoc, ← again]
    exact same
  · rw [drawn_append_of_dry _ fun event member =>
      event.bytes_of_not_isFact (none event member), ← whole]
    exact length
  · intro failure member
    rcases List.mem_append.mp member with old | new
    · refine clean failure ?_
      rw [← early]
      exact (History.mem_facts rfl).mpr old
    · exact none _ new rfl

/--
An upload whose source never ends after exactly as many bytes as were
declared, without a failure before, is never completed: the request for that
is not sent, and no poll resolves the upload otherwise than with a failure.
This holds on any host, for any receipts given, and in every run.
-/
theorem refused_content {length size : UInt64}
    (exact : Plan.IsExact length size) (host : Host World Content Phase)
    (world : World) (target : Target) (given : List Receipt)
    (limit : Option Nat) (content : Content)
    (moves : List (Move World Content)) :
    let history :=
      ((Place.begin world
        (.ofPlan target (.ofLength length size) given limit content)).replay
          host moves).world.history
    (∀ front back, history.events = front ++ .ended :: back →
      (drawn front).length ≠ length.toNat ∨
        ∃ failure, .drew (.error failure) ∈ front) →
    (∀ aim receipts, .sent (.complete aim receipts) ∉ history.events) ∧
      ∀ outcome, .returned outcome ∈ history.events →
        outcome = .pending ∨
          (∃ failure, outcome = .resolved (.error failure)) ∨
          outcome = .faulted .alreadyResolved ∨
          outcome = .faulted (.panicked .addition) ∧
            UInt64.size ≤
              (history.events.flatMap Event.bytes).length := by
  intro history unfit
  have kept : Founded.Kept target (.ofLength length size) _ _ :=
    (Founded.keeps exact host).replay
      ⟨Regular.begin world target _ given limit content,
        History.always_nil⟩
      moves
  have unwhole : ¬ Whole (Plan.ofLength length size).total history.facts := by
    intro whole
    obtain ⟨front, back, split, total, clean⟩ := History.whole_events whole
    rw [Plan.total_ofLength exact] at total
    rcases unfit front back split with short | ⟨failure, failed⟩
    · exact short total
    · exact clean failure failed
  have wants {event : Event} (member : event ∈ history.events) :
      ∃ before after : History, history = before ++ after ∧
        event.Wants before.facts := by
    rcases List.mem_map.mp member with ⟨moment, listed, rfl⟩
    rcases List.append_of_mem listed with ⟨before, after, split⟩
    refine ⟨before, moment :: after, split, ?_⟩
    by_contra founded
    have whole := kept.founded before moment after split founded
    apply unwhole
    rw [split, History.facts_append]
    exact whole.append _
  constructor
  · intro aim receipts member
    obtain ⟨_, _, _, impossible⟩ := wants member
    exact impossible
  · intro outcome member
    obtain ⟨before, after, split, resolves⟩ := wants member
    match outcome, resolves with
    | .pending, _ => exact .inl rfl
    | .resolved (.error failure), _ => exact .inr (.inl ⟨failure, rfl⟩)
    | .faulted .alreadyResolved, _ => exact .inr (.inr (.inl rfl))
    | .faulted (.panicked panic), large =>
        obtain ⟨rfl, size⟩ := large
        refine .inr (.inr (.inr ⟨rfl, Nat.le_trans size ?_⟩))
        rw [← History.flatMap_facts history, split, History.facts_append,
          List.flatMap_append, List.length_append]
        exact Nat.le_add_right _ _

/-- Receipts for every part of a plan of two. -/
def Host.shortGiven : List Receipt :=
  [{ number := ⟨1⟩, tag := ⟨"first"⟩, size := 2 },
    { number := ⟨2⟩, tag := ⟨"second"⟩, size := 2 }]

/-- One poll of an upload of four bytes whose source has three of them. -/
def Host.shortHistory : History :=
  ((Place.begin ()
      (.ofPlan ⟨⟨"upload-1"⟩, .ofPair "bucket" "key"⟩ (.ofLength 4 2)
        shortGiven none [1, 2, 3])).replay prompt [.poll]).world.history

/-- A source that ends too early, with every part there, completes nothing. -/
theorem refused_short :
    Host.shortHistory.any (·.event matches .ended) = true ∧
      (∀ aim receipts,
        .sent (.complete aim receipts) ∉ Host.shortHistory.events) ∧
      ∀ outcome, .returned outcome ∈ Host.shortHistory.events →
        outcome = .pending ∨
          (∃ failure, outcome = .resolved (.error failure)) ∨
          outcome = .faulted .alreadyResolved ∨
          outcome = .faulted (.panicked .addition) ∧
            UInt64.size ≤
              (Host.shortHistory.events.flatMap Event.bytes).length := by
  have exact : Plan.IsExact 4 2 := ⟨by decide, by decide⟩
  refine ⟨by decide +kernel, ?_⟩
  apply refused_content exact Host.prompt () _ Host.shortGiven none
    [1, 2, 3] [.poll]
  intro front back split
  left
  have drew : (drawn Host.shortHistory.events).length = 3 := by
    decide +kernel
  have fewer := (prefix_drawn_append front (.ended :: back)).length_le
  rw [← show Host.shortHistory.events = _ from split, drew] at fewer
  change _ ≠ 4
  omega

end Multipart
