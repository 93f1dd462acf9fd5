import Multipart.Proofs.Cutter.Polling

/-!
# The turns of a cutter

What a poll of a cutter does in between, its outcome does not tell: when it
asks its stream, and what it holds then.  Nor is every stream finite, and a
cutter that is polled for an endless one may never come back.  So what a
cutter does is told here turn by turn, a turn being what happens until the
cutter looks at its bytes again.  Every source has turns, whether it ends or
not; where polls come back, they are so many turns one after another
(`Cutter.polls_eq_turns`).
-/

namespace Multipart

variable {World Content : Type}

/-! ## Listening -/

/-- The source in surroundings in which its answers are written down. -/
def Source.listening (source : Source World Content) :
    Source (World × List Answer) Content where
  ask heard content :=
    let asked := source.ask heard.1 content
    ((asked.1, heard.2 ++ [asked.2.2]), asked.2)

/-- The stream in surroundings in which its answers are written down. -/
def Stream.listening (stream : Stream World Content) :
    Stream (World × List Answer) Content where
  size := stream.size
  pull heard content :=
    let pulled := stream.pull heard.1 content
    ((pulled.1, heard.2 ++ [pulled.2.answer]), pulled.2)

namespace Cutter

/-! ## What is seen in a turn -/

/-- What can be seen of a cutter while it is polled. -/
inductive Scene (Content : Type) where
  /-- The cutter asks its source, which answers. -/
  | asks (cutter : Cutter Content) (answer : Answer)
  /-- The cutter goes on with a buffer. -/
  | takes (cutter : Cutter Content)
  /-- The poll comes to something. -/
  | tells (cutter : Cutter Content) (outcome : Outcome)

/-- The answer of the source, if it is asked. -/
def Scene.answer? : Scene Content → Option Answer
  | .asks _ answer => some answer
  | _ => none

/-- What the poll comes to, if it does. -/
def Scene.outcome? : Scene Content → Option Outcome
  | .tells _ outcome => some outcome
  | _ => none

/-- The last scene of a turn that leaves a cutter like this. -/
def Scene.last (later : Cutter Content) : Option Outcome → Scene Content
  | some outcome => .tells later outcome
  | none => .takes later

/-- What there is after some turns, and what was seen in them. -/
structure Turned (World Content : Type) where
  world : World
  cutter : Cutter Content
  scenes : List (Scene Content)

section

variable (source : Source World Content) (world : World)
  (cutter : Cutter Content)

/--
The scene in which a cutter asks its source, if it does.  What it had left of
the last buffer belongs then to the beginning of a part.
-/
def question : Option (Scene Content) :=
  match cutter.demand with
  | .input beginning =>
    let asked := source.ask world cutter.content
    some (.asks (cutter.empty beginning cutter.content) asked.2.2)
  | _ => none

/-- Take a turn, and watch it. -/
def watch : Turned World Content :=
  let turned := cutter.turn source world
  { world := turned.1
    cutter := turned.2.1
    scenes :=
      (cutter.question source world).toList ++
        [.last turned.2.1 turned.2.2] }

end

section

variable (source : Source World Content) (world : World)
  {cutter : Cutter Content}

theorem question_of_input {beginning : Bytes}
    (held : cutter.demand = .input beginning) :
    cutter.question source world =
      some (.asks (cutter.empty beginning cutter.content)
        (source.ask world cutter.content).2.2) := by
  rw [question, held]

/-- A cutter that needs no buffer asks nothing. -/
theorem question_eq_none
    (held : ∀ beginning, cutter.demand ≠ .input beginning) :
    cutter.question source world = none := by
  rw [question]
  split
  · rename_i needs
    exact absurd needs (held _)
  · rfl

/-- What comes last in a turn is not an answer. -/
theorem answer?_last (later : Cutter Content) (outcome : Option Outcome) :
    (Scene.last later outcome).answer? = none := by
  cases outcome <;> rfl

/-- What comes last in a turn tells what the poll comes to. -/
theorem outcome?_last (later : Cutter Content)
    (outcome : Option Outcome) :
    (Scene.last later outcome).outcome? = outcome := by
  cases outcome <;> rfl

/-- The scenes of a turn tell no outcome but that of the turn. -/
theorem outcomes_watch (cutter : Cutter Content) :
    (cutter.watch source world).scenes.filterMap Scene.outcome? =
      (cutter.turn source world).2.2.toList := by
  rw [watch, List.filterMap_append, List.filterMap_cons, outcome?_last]
  cases held : cutter.demand with
  | input beginning =>
      rw [question_of_input _ _ held]
      cases (cutter.turn source world).2.2 <;> rfl
  | ended | part | excess | broken =>
      rw [question_eq_none _ _ (by simp [held])]
      cases (cutter.turn source world).2.2 <;> rfl

/-- The scenes of a turn show an answer only if the source is asked. -/
theorem answers_watch (cutter : Cutter Content) :
    (cutter.watch source world).scenes.filterMap Scene.answer? =
      (cutter.question source world).toList.filterMap Scene.answer? := by
  rw [watch, List.filterMap_append,
    List.filterMap_cons_none (answer?_last ..)]
  exact List.append_nil _

/-- Whoever listens in a turn hears the answer, if the source is asked. -/
theorem turn_listening (heard : List Answer) (cutter : Cutter Content) :
    cutter.turn source.listening (world, heard) =
      let turned := cutter.turn source world
      ((turned.1,
          heard ++
            (cutter.question source world).toList.filterMap Scene.answer?),
        turned.2) := by
  cases held : cutter.demand with
  | ended =>
      rw [turn_of_ended _ _ held, turn_of_ended _ _ held,
        question_eq_none _ _ (by simp [held])]
      simp
  | part body rest =>
      rw [turn_of_part _ _ held, turn_of_part _ _ held,
        question_eq_none _ _ (by simp [held])]
      simp
  | excess =>
      rw [turn_of_excess _ _ held, turn_of_excess _ _ held,
        question_eq_none _ _ (by simp [held])]
      simp
  | broken panic =>
      rw [turn_of_broken _ _ held, turn_of_broken _ _ held,
        question_eq_none _ _ (by simp [held])]
      simp
  | input beginning =>
      rw [turn_of_input _ _ held, turn_of_input _ _ held,
        question_of_input _ _ held]
      rfl

/-- Whoever listens to a turn that is watched hears what its scenes show. -/
theorem watch_listening (heard : List Answer) (cutter : Cutter Content) :
    cutter.watch source.listening (world, heard) =
      let turned := cutter.watch source world
      ⟨(turned.world, heard ++ turned.scenes.filterMap Scene.answer?),
        turned.cutter, turned.scenes⟩ := by
  have same :
      cutter.question source.listening (world, heard) =
        cutter.question source world := by
    rw [question, question]
    split <;> rfl
  dsimp only
  rw [answers_watch, watch, watch, turn_listening, same]

end

/-! ## Turns one after another -/

/-- Take so many turns. -/
def turns (source : Source World Content) :
    (count : Nat) → World → Cutter Content → Turned World Content
  | 0, world, cutter => ⟨world, cutter, []⟩
  | count + 1, world, cutter =>
    let first := cutter.watch source world
    let others := turns source count first.world first.cutter
    { others with scenes := first.scenes ++ others.scenes }

section

variable (source : Source World Content) (world : World)
  (cutter : Cutter Content)

theorem turns_one :
    cutter.turns source 1 world = cutter.watch source world := by
  simp [turns]

/-- Turns may be taken in two portions. -/
theorem turns_add (first second : Nat) :
    cutter.turns source (first + second) world =
      let before := cutter.turns source first world
      let after := before.cutter.turns source second before.world
      { after with scenes := before.scenes ++ after.scenes } := by
  induction first generalizing world cutter with
  | zero => simp [turns]
  | succ first ih =>
      rw [Nat.succ_add, turns, ih]
      simp [turns, List.append_assoc]

/-- Whoever listens hears the answers of the scenes and no others. -/
theorem turns_listening (heard : List Answer) (count : Nat) :
    cutter.turns source.listening count (world, heard) =
      let turned := cutter.turns source count world
      ⟨(turned.world, heard ++ turned.scenes.filterMap Scene.answer?),
        turned.cutter, turned.scenes⟩ := by
  induction count generalizing world cutter heard with
  | zero => simp [turns]
  | succ count ih =>
      rw [turns, watch_listening]
      simp [turns, ih, List.filterMap_append, List.append_assoc]

end

/-! ## Polls are turns -/

variable {stream : Stream World Content}

/-- Holds when turns are a poll, or all that is left of one. -/
structure Turned.IsPoll (turned : Turned World Content)
    (polled : World × Cutter Content × Outcome) : Prop where
  world : turned.world = polled.1
  cutter : turned.cutter = polled.2.1
  outcome : turned.scenes.filterMap Scene.outcome? = [polled.2.2]

variable (stream)

/-- A poll takes some turns, and only the last of them comes to something. -/
theorem poll_eq_turns (world : World) (cutter : Cutter Content) :
    ∃ count, (cutter.turns stream.source count world).IsPoll
      (cutter.poll stream world) := by
  fun_induction poll stream world cutter with
  | case1 world cutter after later outcome turned =>
      refine ⟨1, ?_⟩
      rw [turns_one]
      refine ⟨?_, ?_, ?_⟩
      · rw [watch, turned]
      · rw [watch, turned]
      · rw [outcomes_watch, turned]
        rfl
  | case2 world cutter after later turned ih =>
      obtain ⟨count, isPoll⟩ := ih
      refine ⟨count + 1, ?_⟩
      have seen := outcomes_watch stream.source world cutter
      rw [turned] at seen
      rw [turns]
      simp only [watch, turned] at seen ⊢
      refine ⟨isPoll.world, isPoll.cutter, ?_⟩
      rw [List.filterMap_append, seen]
      exact isPoll.outcome

/-- Polls one after another are turns one after another. -/
theorem runs_eq_turns (polls : Nat) (world : World)
    (cutter : Cutter Content) :
    ∃ count,
      let turned := cutter.turns stream.source count world
      cutter.runs stream polls world = (turned.world, turned.cutter) ∧
        cutter.outcomes stream polls world =
          turned.scenes.filterMap Scene.outcome? := by
  induction polls generalizing world cutter with
  | zero => exact ⟨0, rfl, rfl⟩
  | succ polls ih =>
      obtain ⟨first, isPoll⟩ := poll_eq_turns stream world cutter
      obtain ⟨others, runs, outcomes⟩ :=
        ih (cutter.poll stream world).1 (cutter.poll stream world).2.1
      refine ⟨first + others, ?_⟩
      rw [turns_add]
      dsimp only
      rw [isPoll.world, isPoll.cutter]
      refine ⟨runs, ?_⟩
      rw [List.filterMap_append, isPoll.outcome]
      exact congrArg _ outcomes

/-- Listening to the stream changes no outcome. -/
theorem outcomes_listening (polls : Nat) (world : World)
    (heard : List Answer) (cutter : Cutter Content) :
    cutter.outcomes stream.listening polls (world, heard) =
      cutter.outcomes stream polls world := by
  induction polls generalizing world heard cutter with
  | zero => rfl
  | succ polls ih =>
      have view :
          cutter.poll stream world =
            ((cutter.poll stream.listening (world, heard)).1.1,
              (cutter.poll stream.listening (world, heard)).2) :=
        poll_view Prod.fst (fun _ _ => rfl) (world, heard) cutter
      rw [outcomes, outcomes, view]
      exact congrArg _ (ih ..)

/--
Polls of a cutter are so many turns, and whoever listens to its stream hears
the answers of their scenes and no others.
-/
theorem polls_eq_turns (polls : Nat) (world : World)
    (heard : List Answer) (cutter : Cutter Content) :
    ∃ count,
      let turned := cutter.turns stream.source count world
      cutter.runs stream.listening polls (world, heard) =
          ((turned.world, heard ++ turned.scenes.filterMap Scene.answer?),
            turned.cutter) ∧
        cutter.outcomes stream polls world =
          turned.scenes.filterMap Scene.outcome? := by
  obtain ⟨count, runs, outcomes⟩ :=
    runs_eq_turns stream.listening polls (world, heard) cutter
  have same :
      cutter.turns stream.listening.source count (world, heard) = _ :=
    turns_listening stream.source world cutter heard count
  rw [same] at runs outcomes
  rw [outcomes_listening] at outcomes
  exact ⟨count, runs, outcomes⟩

end Cutter

end Multipart
