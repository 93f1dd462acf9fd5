import Multipart.Cutter

/-!
# Polling a cutter

A cutter that needs a buffer asks its stream, and what it does next depends
on the answer alone.  So a stream may be watched through any view of its
surroundings: the cutter cuts the same parts, and leaves the view of what it
would have left.
-/

namespace Multipart

namespace Cutter

variable {World Content : Type}

/-- Only a cutter that has finished has ended. -/
theorem finished_of_demand_eq_ended {cutter : Cutter Content}
    (held : cutter.demand = .ended) : cutter.finished = true := by
  rw [demand] at held
  grind

theorem demand_of_finished {cutter : Cutter Content}
    (finished : cutter.finished = true) : cutter.demand = .ended := by
  rw [demand, if_pos finished]

/-! ## One turn, by what the cutter demands -/

section

variable (source : Source World Content) (world : World)
  {cutter : Cutter Content}

theorem turn_of_ended (held : cutter.demand = .ended) :
    cutter.turn source world = (world, cutter, some .ended) := by
  rw [turn]
  split <;> simp_all

theorem turn_of_part {body rest : Bytes}
    (held : cutter.demand = .part body rest) :
    cutter.turn source world =
      (world, cutter.cut rest (lt_of_demand_eq_part held),
        some (.part body)) := by
  rw [turn]
  split <;> grind

theorem turn_of_excess (held : cutter.demand = .excess) :
    cutter.turn source world =
      (world, cutter.finish, some (.failed cutter.wrongLength)) := by
  rw [turn]
  split <;> simp_all

theorem turn_of_broken {panic : Panic}
    (held : cutter.demand = .broken panic) :
    cutter.turn source world = (world, cutter, some (.broken panic)) := by
  rw [turn]
  split <;> simp_all

theorem turn_of_input {beginning : Bytes}
    (held : cutter.demand = .input beginning) :
    let asked := source.ask world cutter.content
    cutter.turn source world =
      (asked.1, cutter.heed beginning asked.2.1 asked.2.2) := by
  rw [turn]
  split <;> simp_all

end

/-- Taking a turn commutes with a view of the surroundings. -/
theorem turn_view {View : Type} {source : Source World Content}
    {other : Source View Content} (view : World → View)
    (same : ∀ world content,
      other.ask (view world) content =
        (view (source.ask world content).1, (source.ask world content).2))
    (world : World) (cutter : Cutter Content) :
    cutter.turn other (view world) =
      (view (cutter.turn source world).1,
        (cutter.turn source world).2) := by
  cases held : cutter.demand with
  | ended => rw [turn_of_ended _ _ held, turn_of_ended _ _ held]
  | part body rest => rw [turn_of_part _ _ held, turn_of_part _ _ held]
  | excess => rw [turn_of_excess _ _ held, turn_of_excess _ _ held]
  | broken panic => rw [turn_of_broken _ _ held, turn_of_broken _ _ held]
  | input beginning =>
      rw [turn_of_input _ _ held, turn_of_input _ _ held, same]

/-! ## Polls -/

/-- A poll is one turn, and another poll if that comes to nothing. -/
theorem poll_eq (stream : Stream World Content) (world : World)
    (cutter : Cutter Content) :
    cutter.poll stream world =
      match cutter.turn stream.source world with
      | (world, cutter, some outcome) => (world, cutter, outcome)
      | (world, later, none) => later.poll stream world := by
  rw [poll]
  split
  · rename_i turned
    rw [turned]
  · rename_i turned
    rw [turned]

/-- A cutter that has finished goes on to say so. -/
theorem poll_of_finished (stream : Stream World Content) (world : World)
    {cutter : Cutter Content} (finished : cutter.finished = true) :
    cutter.poll stream world = (world, cutter, .ended) := by
  rw [poll_eq, turn_of_ended _ _ (demand_of_finished finished)]

/-- Polling a cutter commutes with a view of the surroundings. -/
theorem poll_view {View : Type} {size : Content → Nat}
    {pull : World → (content : Content) → World × Pull size content}
    {look : View → (content : Content) → View × Pull size content}
    (view : World → View)
    (same : ∀ world content,
      look (view world) content =
        (view (pull world content).1, (pull world content).2))
    (world : World) (cutter : Cutter Content) :
    cutter.poll ⟨size, look⟩ (view world) =
      (view (cutter.poll ⟨size, pull⟩ world).1,
        (cutter.poll ⟨size, pull⟩ world).2) := by
  have asks : ∀ world content,
      (Stream.mk size look).source.ask (view world) content =
        (view ((Stream.mk size pull).source.ask world content).1,
          ((Stream.mk size pull).source.ask world content).2) := by
    intro world content
    simp only [Stream.source, same]
  have turns := turn_view view asks
  fun_induction poll ⟨size, pull⟩ world cutter with
  | case1 world cutter after later outcome turned =>
      rw [poll_eq, turns, turned]
  | case2 world cutter after later turned ih =>
      rw [poll_eq, turns, turned]
      exact ih

/-! ## Polls one after another -/

/-- What polls of a cutter come to, one after another. -/
def outcomes (stream : Stream World Content) :
    (polls : Nat) → World → Cutter Content → List Outcome
  | 0, _, _ => []
  | polls + 1, world, cutter =>
    let polled := cutter.poll stream world
    polled.2.2 :: outcomes stream polls polled.1 polled.2.1

/-- The surroundings and the cutter after so many polls. -/
def runs (stream : Stream World Content) :
    (polls : Nat) → World → Cutter Content → World × Cutter Content
  | 0, world, cutter => (world, cutter)
  | polls + 1, world, cutter =>
    let polled := cutter.poll stream world
    runs stream polls polled.1 polled.2.1

end Cutter

end Multipart
