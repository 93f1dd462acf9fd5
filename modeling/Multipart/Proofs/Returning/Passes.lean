import Multipart.Upload.Rounds

/-!
# The passes of a poll

A poll is a loop of rounds, and in a round there are loops again: requests are
resolved one after another, before the next part is cut and after the last,
and the cutter asks its stream until it has something to tell.  The functions
of the poll say at once what such a loop comes to.  Here the loops are taken
apart into the single passes that they are made of, and nothing about a pass
promises that there is a last one: a machine comes back only if
`Loop.Returns` says so, after so many passes, and one that goes on for ever
does not.
-/

namespace Multipart

/-! ## Loops -/

namespace Loop

variable {State Result Outer Total : Type}

/-- What one pass of a loop comes to. -/
inductive Pass (State Result : Type) where
  | again (later : State)
  | done (result : Result)

/-- Holds when a loop comes back with a result after so many passes. -/
inductive Returns (pass : State → Pass State Result) :
    State → Nat → Result → Prop where
  | last {state : State} {result : Result}
      (ends : pass state = .done result) : Returns pass state 1 result
  | more {state later : State} {count : Nat} {result : Result}
      (goesOn : pass state = .again later)
      (returns : Returns pass later count result) :
      Returns pass state (count + 1) result

namespace Pass

/-- What a loop comes to after a pass, told what it comes to from a state. -/
def value (value : State → Result) : Pass State Result → Result
  | .again later => value later
  | .done result => result

/-- A pass of an inner loop as a pass of the loop around it. -/
def within (inside : State → Outer) (after : Result → Pass Outer Total) :
    Pass State Result → Pass Outer Total
  | .again later => .again (inside later)
  | .done result => after result

/-- An inner loop comes to what is made of its result. -/
theorem value_within {inside : State → Outer}
    {after : Result → Pass Outer Total} {outer : Outer → Total}
    {inner : State → Result} (make : Result → Total)
    (stays : ∀ state, outer (inside state) = make (inner state))
    (leaves : ∀ result, (after result).value outer = make result)
    (pass : Pass State Result) :
    (pass.within inside after).value outer = make (pass.value inner) := by
  cases pass with
  | again later => exact stays later
  | done result => exact leaves result

/-- Holds when a pass that goes on and one that ends are as they should. -/
def Meets (goesOn : State → Prop) (ends : Result → Prop) :
    Pass State Result → Prop
  | .again later => goesOn later
  | .done result => ends result

/-- A pass of an inner loop is told of the loop around it. -/
theorem Meets.within {inside : State → Outer}
    {after : Result → Pass Outer Total}
    {goesOn : State → Prop} {ends : Result → Prop}
    {goesOnAround : Outer → Prop} {endsAround : Total → Prop}
    {pass : Pass State Result} (meets : pass.Meets goesOn ends)
    (stays : ∀ later, goesOn later → goesOnAround (inside later))
    (leaves : ∀ result, ends result →
      (after result).Meets goesOnAround endsAround) :
    (pass.within inside after).Meets goesOnAround endsAround := by
  cases pass with
  | again later => exact stays later meets
  | done result => exact leaves result meets

end Pass

/-- A loop comes back if every pass but the last leaves less to do. -/
theorem returns_of_decreasing {pass : State → Pass State Result}
    {Fits : State → Prop} {left : State → Nat}
    (decreases : ∀ {state}, Fits state → (pass state).Meets
      (fun later => Fits later ∧ left later < left state)
      (fun _ => True))
    {state : State} (fits : Fits state) :
    ∃ count result, count ≤ left state + 1 ∧
      Returns pass state count result := by
  induction bound : left state using Nat.strongRecOn
    generalizing state with
  | ind most ih =>
    have less := decreases fits
    cases went : pass state with
    | done result =>
        exact ⟨1, result, Nat.le_add_left 1 most, .last went⟩
    | again later =>
        rw [went] at less
        obtain ⟨count, result, few, returns⟩ :=
          ih (left later) (bound ▸ less.2) less.1 rfl
        have fewer : left later < most := bound ▸ less.2
        exact ⟨count + 1, result, by omega, .more went returns⟩

/-- A loop that comes back does so with what each of its passes keeps. -/
theorem Returns.eq_value {pass : State → Pass State Result}
    {value : State → Result}
    (keeps : ∀ state, (pass state).value value = value state)
    {state : State} {count : Nat} {result : Result}
    (returns : Returns pass state count result) :
    result = value state := by
  induction returns with
  | last ends =>
      rw [← keeps, ends]
      rfl
  | more goesOn _ ih =>
      rw [ih]
      refine Eq.trans ?_ (keeps _)
      rw [goesOn]
      rfl

end Loop

open Loop

/-! ## The loops of a poll -/

variable {World Content Phase : Type}

/-- A turn of a cutter is one pass of the loop that polls it. -/
def Cutter.pass (source : Source World Content)
    (state : World × Cutter Content) :
    Pass (World × Cutter Content)
      (World × Cutter Content × Cutter.Outcome) :=
  match state.2.turn source state.1 with
  | (world, cutter, some outcome) => .done (world, cutter, outcome)
  | (world, cutter, none) => .again (world, cutter)

/-- Resolving one request is one pass of the loop that resolves them. -/
def Turn.drainPass (host : Host World Content Phase)
    (turn : Turn World Content Phase) :
    Pass (Turn World Content Phase)
      (Turn World Content Phase × Drained) :=
  match turn.drainOnce host with
  | (turn, some drained) => .done (turn, drained)
  | (turn, none) => .again turn

/-! ## The poll as one machine -/

/-- Where a poll stands in its loops. -/
inductive Stage (Content : Type) where
  /-- The poll has not begun yet. -/
  | entry
  /-- A round begins. -/
  | round
  /-- Requests are resolved before the next part is cut. -/
  | clearing
  /-- The next part is cut. -/
  | cutting (cutter : Cutter Content)
  /-- Requests are resolved after the last part was cut. -/
  | flushing

/-- A poll in the middle of its loops. -/
structure Standing (World Content Phase : Type) where
  stage : Stage Content
  turn : Turn World Content Phase

namespace Standing

/-- What a pass of a poll comes to. -/
abbrev Passed (World Content Phase : Type) :=
  Pass (Standing World Content Phase)
    (Turn World Content Phase × Outcome)

/-- With an outcome the poll ends, and without one another round begins. -/
def next : Turn World Content Phase × Option Outcome →
    Passed World Content Phase
  | (turn, some outcome) => .done (turn, outcome)
  | (turn, none) => .again ⟨.round, turn⟩

/-- Requests are to be resolved before the next part is cut. -/
def clear (turn : Turn World Content Phase) :
    Passed World Content Phase :=
  .again ⟨.clearing, turn⟩

/-- Requests are to be resolved after the last part was cut. -/
def flush (turn : Turn World Content Phase) :
    Passed World Content Phase :=
  .again ⟨.flushing, turn⟩

/-- The next part is to be cut. -/
def cut (turn : Turn World Content Phase) : Passed World Content Phase :=
  .again ⟨.cutting turn.upload.cutter, turn⟩

/-- One pass of whichever loop the poll is in. -/
def pass (host : Host World Content Phase) :
    Standing World Content Phase → Passed World Content Phase
  | ⟨.entry, turn⟩ => turn.begin .done fun turn => .again ⟨.round, turn⟩
  | ⟨.round, turn⟩ => turn.enter next clear host
  | ⟨.clearing, turn⟩ =>
    (turn.drainPass host).within (⟨.clearing, ·⟩)
      (Turn.cleared next flush cut host)
  | ⟨.cutting cutter, turn⟩ =>
    (Cutter.pass (Turn.content host).source (turn, cutter)).within
      (fun state => ⟨.cutting state.2, state.1⟩)
      (fun polled => next (Turn.finishCut host polled))
  | ⟨.flushing, turn⟩ =>
    (turn.drainPass host).within (⟨.flushing, ·⟩)
      (fun drained => next (Turn.flushed host drained))

end Standing

end Multipart
