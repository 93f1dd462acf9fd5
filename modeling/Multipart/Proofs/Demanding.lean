import Multipart.Proofs.Cutter.Holding
import Multipart.Proofs.Cutter.Turning

/-!
# What a cutter asks of its stream

A cutter accounts for every byte that it was given and could count, at any
time.  It asks its stream only when it has used up the last buffer, and then
only for what it needs next: the rest of a part, or after the last part the
end.  What has ended or failed it does not ask again.  The main statement,
`asked_sparingly`, says this of every scene of any number of turns, in terms
of the scenes before it, so it holds of a cutter too that never comes back
from a poll.
-/

namespace Multipart

namespace Cutter

variable {World Content : Type}

/-! ## What scenes tell -/

namespace Scene

/-- The part that a poll comes to. -/
def part? : Scene Content → Option Bytes
  | .tells _ (.part body) => some body
  | _ => none

/--
The bytes that the stream gives.  A buffer is lost of which no word can tell
how many bytes there are with those before.
-/
def given : Scene Content → Bytes
  | .asks cutter (.buffer bytes) =>
    match Word.add cutter.received bytes.length with
    | .ok _ => bytes
    | .error _ => []
  | _ => []

/-- The bytes that the stream gives when every part was cut. -/
def surplus : Scene Content → Bytes
  | .asks cutter answer =>
    if cutter.isComplete then (asks cutter answer).given else []
  | _ => []

/-- Holds when content is told to have another length than it declared. -/
def tellsLength : Scene Content → Bool
  | .tells _ (.failed (.contentLength _ _)) => true
  | _ => false

/-- Holds when the stream ends or fails, or a poll says the last word. -/
def closes : Scene Content → Bool
  | .asks _ .ended => true
  | .asks _ (.failed _) => true
  | .tells _ (.failed _) => true
  | .tells _ .ended => true
  | _ => false

section

variable {cutter : Cutter Content} {bytes : Bytes}

theorem given_of_counted {received : UInt64}
    (counted : Word.add cutter.received bytes.length = .ok received) :
    (asks cutter (.buffer bytes)).given = bytes := by
  rw [given, counted]

theorem given_of_uncounted {panic : Panic}
    (uncounted : Word.add cutter.received bytes.length = .error panic) :
    (asks cutter (.buffer bytes)).given = [] := by
  rw [given, uncounted]

/-- What is not given is no surplus. -/
theorem surplus_of_given {scene : Scene Content} (none : scene.given = []) :
    scene.surplus = [] := by
  cases scene with
  | asks cutter answer =>
      rw [surplus, none]
      exact ite_self _
  | takes cutter => rfl
  | tells cutter outcome => rfl

end

end Scene

/-- The parts that all polls come to. -/
def partsOf (scenes : List (Scene Content)) : List Bytes :=
  scenes.filterMap Scene.part?

/-- The bytes of all buffers that the stream gives. -/
def givenIn (scenes : List (Scene Content)) : Bytes :=
  scenes.flatMap Scene.given

/-- The bytes of the buffers that are given when every part was cut. -/
def surplusIn (scenes : List (Scene Content)) : Bytes :=
  scenes.flatMap Scene.surplus

section

variable (scenes : List (Scene Content)) (scene : Scene Content)

@[simp]
theorem partsOf_concat :
    partsOf (scenes ++ [scene]) = partsOf scenes ++ scene.part?.toList := by
  rw [partsOf, List.filterMap_append, List.filterMap_cons]
  cases scene.part? <;> rfl

@[simp]
theorem givenIn_concat :
    givenIn (scenes ++ [scene]) = givenIn scenes ++ scene.given := by
  simp [givenIn]

@[simp]
theorem surplusIn_concat :
    surplusIn (scenes ++ [scene]) = surplusIn scenes ++ scene.surplus := by
  simp [surplusIn]

end

/-- How what a cutter holds depends on the scenes until then. -/
structure Accounts (plan : Plan) (scenes : List (Scene Content))
    (cutter : Cutter Content) : Prop where
  planned : cutter.plan = plan
  counted : cutter.emitted = (partsOf scenes).length
  received :
    cutter.received.toNat =
      (partsOf scenes).flatten.length + cutter.gathered.length +
        cutter.rest.length + (surplusIn scenes).length
  kept :
    givenIn scenes =
      (partsOf scenes).flatten ++ (cutter.gathered ++ cutter.rest) ++
        surplusIn scenes
  /-- A surplus is a buffer because of which the length was told wrong. -/
  told :
    surplusIn scenes = [] ∨ ∃ scene ∈ scenes, scene.tellsLength = true

/-- What each scene has to be like, after those before it. -/
inductive Scene.Follows (plan : Plan) (before : List (Scene Content)) :
    Scene Content → Prop where
  | asks {cutter : Cutter Content} {answer : Answer}
      (accounts : cutter.Accounts plan before)
      (used : cutter.rest = [])
      (needs :
        cutter.emitted = plan.partCount.toNat ∨
          ∃ range,
            plan.range? (PartNumber.ofNat (cutter.emitted + 1)) =
                .ok (some range) ∧
              cutter.received < range.stop)
      (goesOn : ∀ scene ∈ before, scene.closes = false) :
      Follows plan before (.asks cutter answer)
  | takes {cutter : Cutter Content}
      (accounts : cutter.Accounts plan before) :
      Follows plan before (.takes cutter)
  | tells {cutter : Cutter Content} {outcome : Outcome}
      (accounts : cutter.Accounts plan (before ++ [.tells cutter outcome])) :
      Follows plan before (.tells cutter outcome)

/-- Holds when every scene follows those before it. -/
inductive Follow (plan : Plan) : List (Scene Content) → Prop where
  | none : Follow plan []
  | more {before : List (Scene Content)} {scene : Scene Content}
      (follow : Follow plan before) (follows : scene.Follows plan before) :
      Follow plan (before ++ [scene])

/-! ## One scene more -/

variable {plan : Plan} {scenes : List (Scene Content)}
  {cutter later : Cutter Content} {scene : Scene Content}

namespace Accounts

/-- A cutter that is only given what it needs accounts for it. -/
theorem ofHolds (planned : cutter.plan = plan)
    (holds : cutter.Holds (partsOf scenes) (givenIn scenes))
    (dry : surplusIn scenes = []) : cutter.Accounts plan scenes where
  planned := planned
  counted := holds.counted.symm
  received := by
    rw [holds.received, holds.kept, dry, held]
    simp only [List.length_append, List.length_nil]
    omega
  kept := by
    rw [dry, List.append_nil]
    exact holds.kept
  told := .inl dry

/-- A cutter that says its last word holds what it held. -/
theorem finish (accounts : cutter.Accounts plan scenes) :
    cutter.finish.Accounts plan scenes :=
  ⟨accounts.planned, accounts.counted, accounts.received, accounts.kept,
    accounts.told⟩

/-- A scene in which nothing is given or cut changes no account. -/
theorem concat (accounts : cutter.Accounts plan scenes)
    (part : scene.part? = none) (given : scene.given = []) :
    cutter.Accounts plan (scenes ++ [scene]) where
  planned := accounts.planned
  counted := by simpa [part] using accounts.counted
  received := by
    simpa [part, Scene.surplus_of_given given] using accounts.received
  kept := by
    simpa [part, given, Scene.surplus_of_given given] using accounts.kept
  told := by
    rcases accounts.told with dry | ⟨other, member, tells⟩
    · exact .inl (by simpa [Scene.surplus_of_given given] using dry)
    · exact .inr ⟨other, List.mem_append_left _ member, tells⟩

end Accounts

/-- What is known of a cutter that goes on after so many scenes. -/
structure Open (plan : Plan) (scenes : List (Scene Content))
    (cutter : Cutter Content) : Prop where
  follow : Follow plan scenes
  going : cutter.finished = false
  planned : cutter.plan = plan
  holds : cutter.Holds (partsOf scenes) (givenIn scenes)
  dry : surplusIn scenes = []
  goesOn : ∀ scene ∈ scenes, scene.closes = false

/-- What is known of a cutter that has said its last word. -/
structure Closed (plan : Plan) (scenes : List (Scene Content))
    (cutter : Cutter Content) : Prop where
  follow : Follow plan scenes
  finished : cutter.finished = true
  accounts : cutter.Accounts plan scenes

/-- What is known of a cutter, however often it was polled. -/
def Known (plan : Plan) (scenes : List (Scene Content))
    (cutter : Cutter Content) : Prop :=
  cutter.Open plan scenes ∨ cutter.Closed plan scenes

namespace Open

variable {beginning buffer : Bytes} {content : Content}

/-- A cutter that was not polled goes on. -/
theorem ofPlan (plan : Plan) (content : Content) :
    (ofPlan plan content).Open plan [] :=
  ⟨.none, rfl, rfl, holds_ofPlan plan content, rfl, by simp⟩

theorem accounts (goes : cutter.Open plan scenes) :
    cutter.Accounts plan scenes :=
  .ofHolds goes.planned goes.holds goes.dry

theorem empty (goes : cutter.Open plan scenes)
    (needs : cutter.demand = .input beginning) (content : Content) :
    (cutter.empty beginning content).Open plan scenes :=
  ⟨goes.follow, goes.going, goes.planned, goes.holds.empty needs content,
    goes.dry, goes.goesOn⟩

/-- After one more scene a cutter goes on with what it holds then. -/
theorem concat (goes : cutter.Open plan scenes)
    (follows : scene.Follows plan scenes)
    (going : later.finished = false) (planned : later.plan = plan)
    (holds :
      later.Holds (partsOf scenes ++ scene.part?.toList)
        (givenIn scenes ++ scene.given))
    (surplus : scene.surplus = []) (goesOn : scene.closes = false) :
    later.Open plan (scenes ++ [scene]) where
  follow := goes.follow.more follows
  going := going
  planned := planned
  holds := by simpa using holds
  dry := by simpa [surplus] using goes.dry
  goesOn other member := by
    rcases List.mem_append.mp member with earlier | last
    · exact goes.goesOn other earlier
    · rw [List.mem_singleton.mp last]
      exact goesOn

/-- A scene in which nothing is given or cut lets a cutter go on. -/
theorem quiet (goes : cutter.Open plan scenes)
    (follows : scene.Follows plan scenes) (part : scene.part? = none)
    (given : scene.given = []) (goesOn : scene.closes = false) :
    cutter.Open plan (scenes ++ [scene]) :=
  goes.concat follows goes.going goes.planned
    (by simpa [part, given] using goes.holds)
    (Scene.surplus_of_given given) goesOn

/-- A cutter goes on when it has cut a part. -/
theorem cut (goes : cutter.Open plan scenes) {body rest : Bytes}
    (full : cutter.demand = .part body rest) :
    (cutter.cut rest (lt_of_demand_eq_part full)).Open plan
      (scenes ++
        [.tells (cutter.cut rest (lt_of_demand_eq_part full))
          (.part body)]) := by
  have holds := goes.holds.cut full
  rw [← List.append_nil (givenIn scenes)] at holds
  refine goes.concat (.tells (.ofHolds goes.planned ?_ ?_)) goes.going
    goes.planned holds rfl rfl
  · rw [partsOf_concat, givenIn_concat]
    exact holds
  · rw [surplusIn_concat, goes.dry]
    rfl

/-! ## What a cutter asks for -/

variable {length size : UInt64}

/-- A cutter that asks is in need, and has not heard of an end. -/
theorem asks (exact : Plan.IsExact length size)
    (goes : cutter.Open (Plan.ofLength length size) scenes)
    (needs : cutter.demand = .input beginning) (answer : Answer) :
    (Scene.asks (cutter.empty beginning cutter.content) answer).Follows
      (Plan.ofLength length size) scenes := by
  refine .asks (goes.empty needs _).accounts rfl ?_ goes.goesOn
  cases complete : cutter.isComplete with
  | true =>
      left
      rw [← goes.planned]
      exact of_decide_eq_true complete
  | false =>
      right
      have bound := cutter.emitted_le
      have differ : cutter.emitted ≠ cutter.plan.partCount.toNat :=
        of_decide_eq_false complete
      have short := goes.holds.toGauge.lt_offset needs complete
      rw [goes.planned] at bound differ short
      obtain ⟨range, found, stop⟩ :=
        Plan.stop_of_range? exact (Nat.lt_of_le_of_ne bound differ)
      refine ⟨range, found, ?_⟩
      rw [UInt64.lt_iff_toNat_lt, stop]
      exact goes.holds.received ▸ short

/-- A cutter that takes the buffer it has asked for goes on with it. -/
theorem fill (exact : Plan.IsExact length size)
    (goes : cutter.Open (Plan.ofLength length size) scenes)
    (needs : cutter.demand = .input beginning) (content : Content)
    {received : UInt64}
    (counted : Word.add cutter.received buffer.length = .ok received)
    (within : cutter.isComplete = true → buffer = []) :
    (cutter.fill beginning buffer content received).Open
      (Plan.ofLength length size)
      (scenes ++
        [.asks (cutter.empty beginning cutter.content) (.buffer buffer)] ++
        [.takes (cutter.fill beginning buffer content received)]) := by
  have given :
      (Scene.asks (cutter.empty beginning cutter.content)
        (.buffer buffer)).given = buffer :=
    Scene.given_of_counted counted
  have asked :
      (cutter.fill beginning buffer content received).Open
        (Plan.ofLength length size)
        (scenes ++
          [.asks (cutter.empty beginning cutter.content)
            (.buffer buffer)]) := by
    refine goes.concat (goes.asks exact needs _) goes.going goes.planned
      ?_ (ite_eq_right_iff.mpr fun complete => ?_) rfl
    · rw [given, show Option.toList (Scene.part? _) = [] from rfl,
        List.append_nil]
      exact goes.holds.fill needs content counted
    · rw [given]
      exact within complete
  exact asked.quiet (.takes asked.accounts) rfl rfl rfl

end Open

/-! ## How a cutter ends -/

section

variable {length size : UInt64} {outcome : Outcome}

/-- A last word that is no part leaves the accounts as they are. -/
theorem Accounts.close (accounts : cutter.Accounts plan scenes)
    (follow : Follow plan scenes) (finished : cutter.finished = true)
    (part : (Scene.tells cutter outcome).part? = none) :
    cutter.Closed plan (scenes ++ [.tells cutter outcome]) := by
  have told := accounts.concat part rfl
  exact ⟨follow.more (.tells told), finished, told⟩

/-- A cutter accounts for the buffer because of which it ends. -/
theorem Open.overflow (goes : cutter.Open plan scenes)
    {beginning buffer : Bytes} (content : Content) {received : UInt64}
    (needs : cutter.demand = .input beginning)
    (counted : Word.add cutter.received buffer.length = .ok received)
    (complete : cutter.isComplete = true) :
    let asking : Scene Content :=
      .asks (cutter.empty beginning cutter.content) (.buffer buffer)
    let filled := cutter.fill beginning buffer content received
    let later := { filled.finish with rest := [] }
    let tells : Scene Content := .tells later (.failed filled.wrongLength)
    asking.Follows plan scenes →
      later.Closed plan (scenes ++ [asking] ++ [tells]) := by
  intro asking filled later tells follows
  have holds := goes.holds
  have held := (held_of_demand_eq_input holds.tidy needs).1
  have gives : asking.given = buffer := Scene.given_of_counted counted
  have parts : partsOf (scenes ++ [asking] ++ [tells]) = partsOf scenes := by
    rw [partsOf_concat, partsOf_concat]
    exact (List.append_nil _).trans (List.append_nil _)
  have given :
      givenIn (scenes ++ [asking] ++ [tells]) =
        givenIn scenes ++ buffer := by
    rw [givenIn_concat, givenIn_concat, gives]
    exact List.append_nil _
  have surplus : surplusIn (scenes ++ [asking] ++ [tells]) = buffer := by
    rw [surplusIn_concat, surplusIn_concat, goes.dry,
      show asking.surplus = asking.given from if_pos complete, gives]
    exact List.append_nil _
  have accounts :
      later.Accounts plan (scenes ++ [asking] ++ [tells]) :=
    { planned := goes.planned
      counted := parts ▸ holds.counted.symm
      received := by
        rw [parts, surplus]
        change received.toNat = _ + beginning.length + 0 + buffer.length
        rw [Word.add_eq_ok.mp counted, holds.received, holds.kept, held,
          List.length_append]
        rfl
      kept := by
        rw [parts, given, surplus, holds.kept, held]
        change _ = _ ++ (beginning ++ []) ++ buffer
        rw [List.append_nil]
      told :=
        .inr ⟨tells, List.mem_append_right _ (List.mem_singleton_self _),
          rfl⟩ }
  exact ⟨(goes.follow.more follows).more (.tells accounts), rfl, accounts⟩

/-! ## Any number of turns -/

/-- Whatever a cutter is answered, what is known of it is known after it. -/
theorem Open.heed (exact : Plan.IsExact length size)
    (goes : cutter.Open (Plan.ofLength length size) scenes)
    {beginning : Bytes} (needs : cutter.demand = .input beginning)
    (content : Content) (answer : Answer) :
    let heeded := cutter.heed beginning content answer
    heeded.1.Known (Plan.ofLength length size)
      (scenes ++
        [.asks (cutter.empty beginning cutter.content) answer] ++
        [.last heeded.1 heeded.2]) := by
  have asks := goes.asks exact needs answer
  have still := goes.empty needs content
  cases answer with
  | pending =>
      left
      have asked := still.quiet asks rfl rfl rfl
      exact asked.quiet (.tells (asked.accounts.concat rfl rfl))
        rfl rfl rfl
  | failed failure =>
      right
      exact (still.accounts.finish.concat rfl rfl).close
        (goes.follow.more asks) rfl rfl
  | ended =>
      right
      refine (still.accounts.finish.concat rfl rfl).close
        (goes.follow.more asks) rfl ?_
      split <;> rfl
  | buffer buffer =>
      rw [Cutter.heed]
      split
      · rename_i uncounted
        left
        have lost := Scene.given_of_uncounted uncounted
        have asked := still.quiet asks rfl lost rfl
        exact asked.quiet (.tells (asked.accounts.concat rfl rfl))
          rfl rfl rfl
      · rename_i counted
        dsimp only
        split
        · rename_i excess
          exact .inr (goes.overflow content needs counted excess.1 asks)
        · rename_i within
          refine .inl
            (goes.fill exact needs content counted fun complete => ?_)
          by_contra some
          exact within ⟨complete, by simpa using some⟩

variable (source : Source World Content) (world : World)

/-- Every turn leaves what is known of a cutter known. -/
theorem Open.watch (exact : Plan.IsExact length size)
    (goes : cutter.Open (Plan.ofLength length size) scenes) :
    let turned := cutter.watch source world
    turned.cutter.Known (Plan.ofLength length size)
      (scenes ++ turned.scenes) := by
  rw [Cutter.watch]
  cases held : cutter.demand with
  | ended =>
      have finished := finished_of_demand_eq_ended held
      rw [goes.going] at finished
      cases finished
  | part body rest =>
      rw [turn_of_part _ _ held, question_eq_none _ _ (by simp [held])]
      exact .inl (goes.cut held)
  | excess =>
      rw [turn_of_excess _ _ held, question_eq_none _ _ (by simp [held])]
      exact .inr (goes.accounts.finish.close goes.follow rfl rfl)
  | broken panic =>
      exact absurd held (demand_ne_broken exact goes.planned panic)
  | input beginning =>
      rw [turn_of_input _ _ held, question_of_input _ _ held]
      dsimp only
      rw [← List.append_assoc]
      exact goes.heed exact held _ _

/-- A cutter that has said its last word asks for nothing more. -/
theorem Closed.watch (closed : cutter.Closed plan scenes) :
    let turned := cutter.watch source world
    turned.cutter.Closed plan (scenes ++ turned.scenes) := by
  have done := demand_of_finished closed.finished
  rw [Cutter.watch, turn_of_ended _ _ done,
    question_eq_none _ _ (by simp [done])]
  exact closed.accounts.close closed.follow closed.finished rfl

/-- After any number of turns, every scene follows those before it. -/
theorem Known.follow (exact : Plan.IsExact length size)
    (known : cutter.Known (Plan.ofLength length size) scenes)
    (count : Nat) :
    Follow (Plan.ofLength length size)
      (scenes ++ (cutter.turns source count world).scenes) := by
  induction count generalizing scenes world cutter with
  | zero =>
      rw [turns, List.append_nil]
      exact known.elim Open.follow Closed.follow
  | succ count ih =>
      rw [turns, ← List.append_assoc]
      apply ih
      rcases known with goes | closed
      · exact goes.watch source world exact
      · exact .inr (closed.watch source world)

end

end Cutter

/--
Every scene of a cutter follows from those before it, whatever its source
answers, be it for ever, and however many turns are taken.  The polls of a
stream are such turns, and it is asked in their scenes only.
-/
theorem asked_sparingly {World Content : Type} {length size : UInt64}
    (exact : Plan.IsExact length size) (content : Content) :
    let plan := Plan.ofLength length size
    let cutter := Cutter.ofPlan plan content
    (∀ (source : Source World Content) (world : World) (count : Nat),
      Cutter.Follow plan (cutter.turns source count world).scenes) ∧
      ∀ (stream : Stream World Content) (world : World) (polls : Nat),
        ∃ count,
          let turned := cutter.turns stream.source count world
          cutter.runs stream.listening polls (world, []) =
              ((turned.world,
                turned.scenes.filterMap Cutter.Scene.answer?),
                turned.cutter) ∧
            cutter.outcomes stream polls world =
              turned.scenes.filterMap Cutter.Scene.outcome? := by
  intro plan cutter
  constructor
  · intro source world count
    exact Cutter.Known.follow source world exact
      (.inl (.ofPlan plan content)) count
  · intro stream world polls
    exact Cutter.polls_eq_turns stream polls world [] cutter

/-- The source that gives the same buffer for ever. -/
def Source.repeating (buffer : Bytes) : Source Unit Unit where
  ask _ _ := ((), (), .buffer buffer)

/-- Four bytes were declared; after the fifth nothing is asked for. -/
theorem asked_endless :
    let plan := Plan.ofLength 4 3
    let source := Source.repeating [1]
    let cutter := Cutter.ofPlan plan ()
    (cutter.turns source.listening 9 ((), [])).world.2 =
        List.replicate 5 (.buffer [1]) ∧
      (cutter.turns source 9 ()).scenes.filterMap Cutter.Scene.outcome? =
        [.part [1, 1, 1], .part [1], .failed (.contentLength 4 5), .ended,
          .ended] ∧
      ∀ count, Cutter.Follow plan (cutter.turns source count ()).scenes :=
  ⟨by decide +kernel, by decide +kernel,
    (asked_sparingly ⟨by decide, by decide⟩ ()).1 (Source.repeating [1])
      ()⟩

end Multipart
