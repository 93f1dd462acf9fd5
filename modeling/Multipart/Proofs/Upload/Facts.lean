import Mathlib.Data.List.Induction
import Multipart.Proofs.Cutter.Holding
import Multipart.Proofs.Upload.Asking
import Multipart.Proofs.Upload.Recording

/-!
# The facts of a history

Of what is written down in a run only a part can be lost or gained by others:
the requests that were sent, their answers, and what the source gave.  These
are the facts of a history.  Pauses and the returns of polls leave them
alone, so that they change only where a request is polled or the source is
asked, and there in a way that is told here once.
-/

namespace Multipart

variable {World Content Phase : Type}

namespace Event

/-- Holds for what a request or the source brings about. -/
def isFact : Event → Bool
  | .sent _ => true
  | .asked _ => false
  | .answered _ _ => true
  | .pulled => false
  | .drew _ => true
  | .ended => true
  | .paused _ => false
  | .returned _ => false

/-- Holds when a part request is answered with a receipt. -/
def lands : Event → Bool
  | .answered (.part _ _ _) (.ok _) => true
  | _ => false

/-- The number of the part for which a receipt is answered. -/
def landing? : Event → Option PartNumber
  | .answered (.part _ number _) (.ok _) => some number
  | _ => none

/-- Only an event that lands a part tells its number. -/
theorem landing?_eq_none {event : Event} (unlanded : event.lands = false) :
    event.landing? = none := by
  unfold landing?
  split
  · cases unlanded
  · rfl

/-- The bytes that are drawn at an event. -/
def bytes : Event → Bytes
  | .drew (.ok buffer) => buffer
  | _ => []

theorem bytes_of_not_isFact (event : Event) (fact : ¬ event.isFact) :
    event.bytes = [] := by
  cases event with
  | drew => exact absurd rfl fact
  | _ => rfl

/-- The bytes once those of an event are added, if a word can count them. -/
def draw (before : Bytes) (event : Event) : Bytes :=
  if before.length + event.bytes.length < UInt64.size then
    before ++ event.bytes
  else
    before

theorem draw_of_dry {event : Event} (dry : event.bytes = [])
    (before : Bytes) : event.draw before = before := by
  rw [draw, dry, List.append_nil]
  exact ite_self _

theorem prefix_draw (before : Bytes) (event : Event) :
    before <+: event.draw before := by
  rw [draw]
  split
  · exact List.prefix_append _ _
  · exact List.prefix_refl _

end Event

/--
The bytes that are drawn at events, one after another.  A buffer is lost with
which there are more than a word can count.
-/
def drawn (events : List Event) : Bytes :=
  events.foldl (fun before event => event.draw before) []

theorem drawn_concat (events : List Event) (event : Event) :
    drawn (events ++ [event]) = event.draw (drawn events) :=
  List.foldl_append

/-- What is drawn later comes after what was drawn before. -/
theorem prefix_drawn_append (left right : List Event) :
    drawn left <+: drawn (left ++ right) := by
  induction right generalizing left with
  | nil => simp
  | cons event right ih =>
      rw [List.append_cons]
      refine List.IsPrefix.trans ?_ (ih (left ++ [event]))
      rw [drawn_concat]
      exact event.prefix_draw _

/-- Events without bytes draw nothing. -/
theorem drawn_append_of_dry (left : List Event) {right : List Event}
    (dry : ∀ event ∈ right, event.bytes = []) :
    drawn (left ++ right) = drawn left := by
  induction right generalizing left with
  | nil => rw [List.append_nil]
  | cons event right ih =>
      rw [List.append_cons,
        ih _ fun later member => dry later (List.mem_cons_of_mem _ member),
        drawn_concat, Event.draw_of_dry (dry event List.mem_cons_self)]

/-- Nothing is lost as long as a word can count all bytes. -/
theorem drawn_eq_flatMap {events : List Event}
    (fits : (events.flatMap Event.bytes).length < UInt64.size) :
    drawn events = events.flatMap Event.bytes := by
  induction events using List.reverseRecOn with
  | nil => rfl
  | append_singleton events event ih =>
      rw [List.flatMap_append, List.flatMap_singleton,
        List.length_append] at fits
      rw [drawn_concat, ih (by omega), Event.draw, if_pos fits,
        List.flatMap_append, List.flatMap_singleton]

/-- No more is drawn than was given. -/
theorem length_drawn_le (events : List Event) :
    (drawn events).length ≤ (events.flatMap Event.bytes).length := by
  induction events using List.reverseRecOn with
  | nil => exact Nat.le_refl 0
  | append_singleton events event ih =>
      rw [drawn_concat, Event.draw, List.flatMap_append,
        List.flatMap_singleton, List.length_append]
      split
      · rw [List.length_append]
        exact Nat.add_le_add_right ih _
      · exact Nat.le_add_right_of_le ih

section Counting

variable {facts : List Event} {buffer : Bytes} {received : UInt64}

/-- A buffer is drawn that is counted. -/
theorem drawn_drew_of_counted {sum : UInt64}
    (same : received.toNat = (drawn facts).length)
    (counted : Word.add received buffer.length = .ok sum) :
    drawn (facts ++ [.drew (.ok buffer)]) = drawn facts ++ buffer := by
  have word := sum.toNat_lt
  rw [Word.add_eq_ok.mp counted, same] at word
  rw [drawn_concat]
  exact if_pos word

/-- A buffer is lost that is not counted. -/
theorem drawn_drew_of_uncounted {panic : Panic}
    (same : received.toNat = (drawn facts).length)
    (uncounted : Word.add received buffer.length = .error panic) :
    drawn (facts ++ [.drew (.ok buffer)]) = drawn facts := by
  have large := (Word.add_eq_error.mp uncounted).2
  rw [same] at large
  rw [drawn_concat]
  exact if_neg (Nat.not_lt.mpr large)

end Counting

/-- The numbers of the parts that land at events, in their order. -/
def landed (events : List Event) : List PartNumber :=
  events.filterMap Event.landing?

theorem landed_append (left right : List Event) :
    landed (left ++ right) = landed left ++ landed right :=
  List.filterMap_append

namespace History

/-- The events of a history in their order. -/
def events (history : History) : List Event :=
  history.map (·.event)

/-- The events that a request or the source has brought about. -/
def facts (history : History) : List Event :=
  history.events.filter Event.isFact

theorem facts_append (left right : History) :
    facts (left ++ right) = left.facts ++ facts right := by
  simp [facts, events]

theorem mem_facts {history : History} {event : Event}
    (fact : event.isFact = true) :
    event ∈ history.facts ↔ event ∈ history.events := by
  simp [facts, fact]

/-- Facts are counted among the facts. -/
theorem countP_facts {counts : Event → Bool}
    (facts : ∀ event, counts event = true → event.isFact = true)
    (history : History) :
    history.facts.countP counts = history.events.countP counts := by
  rw [History.facts]
  rw [List.countP_filter]
  refine List.countP_congr fun event _ => ?_
  rw [Bool.and_eq_true]
  exact and_iff_left_of_imp (facts event)

/-- Only facts tell of bytes. -/
theorem drawn_facts (history : History) :
    drawn history.facts = drawn history.events := by
  rw [facts]
  generalize history.events = events
  induction events using List.reverseRecOn with
  | nil => rfl
  | append_singleton events event ih =>
      rw [List.filter_append, drawn_concat, ← ih]
      by_cases fact : event.isFact
      · rw [List.filter_cons_of_pos fact]
        exact drawn_concat _ event
      · rw [List.filter_cons_of_neg fact,
          Event.draw_of_dry (event.bytes_of_not_isFact fact)]
        exact congrArg drawn (List.append_nil _)

theorem flatMap_facts (history : History) :
    history.facts.flatMap Event.bytes =
      history.events.flatMap Event.bytes := by
  rw [facts]
  induction history.events with
  | nil => rfl
  | cons event events ih =>
      by_cases fact : event.isFact
      · rw [List.filter_cons_of_pos fact, List.flatMap_cons, ih]
        rfl
      · rw [List.filter_cons_of_neg fact, ih, List.flatMap_cons,
          event.bytes_of_not_isFact fact]
        rfl

end History

namespace Recorded

/-- The facts that surroundings have written down. -/
def facts (recorded : Recorded World) : List Event :=
  recorded.history.facts

theorem facts_note (recorded : Recorded World) (session : Session)
    (event : Event) :
    (recorded.note session event).facts =
      recorded.facts ++ [event].filter Event.isFact := by
  rw [facts, note, History.facts_append]
  rfl

theorem facts_note_of_idle (recorded : Recorded World) (session : Session)
    {event : Event} (idle : event.isFact = false) :
    (recorded.note session event).facts = recorded.facts := by
  rw [facts_note, List.filter_cons_of_neg (by simp [idle])]
  exact List.append_nil _

/-- Pauses are no facts. -/
@[simp]
theorem facts_hear (recorded : Recorded World) (session : Session)
    (signals : List Signal) :
    (recorded.hear session signals).facts = recorded.facts := by
  induction signals generalizing recorded session with
  | nil => rfl
  | cons first signals ih =>
      cases first with
      | pause => exact (ih _ _).trans (facts_note_of_idle _ _ rfl)
      | wakePart number => exact ih recorded session
      | wakeDriver => exact ih recorded session
      | note entry => exact ih recorded session

/-- A reply adds the event it was asked with, and its result. -/
theorem facts_witness {Outcome : Type} (recorded : Recorded World)
    (session : Session) (event : Event) (reply : Reply World Outcome)
    (result : Option Event) :
    (recorded.witness session event reply result).facts =
      recorded.facts ++ [event].filter Event.isFact ++
        result.toList.filter Event.isFact := by
  rw [witness]
  cases result with
  | none =>
      rw [note?, facts_hear, facts_note]
      exact (List.append_nil _).symm
  | some answer =>
      rw [note?, facts_note, facts_hear, facts_note]
      rfl

end Recorded

/-! ## The facts of a step -/

/-- What polling a request for the first time adds to the facts. -/
def Marked.facts (marked : Marked Phase) (request : Request) :
    List Event :=
  if marked.begun then [] else [.sent request]

/-- All that polling a request adds first is that it was sent. -/
theorem Marked.eq_of_mem_facts {marked : Marked Phase} {request : Request}
    {event : Event} (member : event ∈ marked.facts request) :
    event = .sent request := by
  rw [facts] at member
  split at member
  · cases member
  · exact List.mem_singleton.mp member

/-- Sending a request draws no bytes. -/
theorem Marked.dry_facts (marked : Marked Phase) (request : Request) :
    ∀ event ∈ marked.facts request, event.bytes = [] := by
  intro event member
  rw [Marked.eq_of_mem_facts member]
  rfl

/-- An answer draws no bytes. -/
theorem Response.dry_event {request : Request}
    (response : Response Phase request) :
    ∀ event ∈ response.event?.toList, event.bytes = [] := by
  intro event member
  rcases Response.eq_of_mem_event member with ⟨answer, _, rfl⟩
  rfl

section Steps

variable (host : Host World Content Phase)
  (place : Place (Recorded World) Content (Marked Phase))

/-- Polling a request adds that it was sent and what it is answered. -/
theorem facts_poll (request : Request) (marked : Marked Phase) :
    (place.hear (host.recording.poll place.world place.upload.session
        request marked)).world.facts =
      place.world.facts ++ marked.facts request ++
        (host.poll place.world.world place.upload.session request
          marked.phase).outcome.event?.toList := by
  apply (Recorded.facts_witness _ _ _ _ _).trans
  have asked :
      [marked.event request].filter Event.isFact =
        marked.facts request := by
    unfold Marked.event Marked.facts
    split <;> rfl
  have answered (response : Response Phase request) :
      response.event?.toList.filter Event.isFact =
        response.event?.toList := by
    cases response <;> rfl
  rw [asked, answered]

/-- Asking the source adds what it gives. -/
theorem facts_pull (content : Content) :
    (host.recording.source.pull place content).1.world.facts =
      place.world.facts ++
        (host.recording.source.pull place
          content).2.event?.toList := by
  apply (Recorded.facts_witness _ _ _ _ _).trans
  have given {size : Content → Nat} (pull : Pull size content) :
      pull.event?.toList.filter Event.isFact = pull.event?.toList := by
    cases pull <;> rfl
  rw [given]
  exact congrArg (· ++ _) (List.append_nil _)

variable {host place}
  {after : Place (Recorded World) Content (Marked Phase)}

variable (host) in
/-- Asking the source adds what it gives to the facts. -/
theorem facts_of_pull {content : Content}
    {pull : Pull host.size content}
    (gives :
      host.recording.source.pull place content = (after, pull)) :
    after.world.facts = place.world.facts ++ pull.event?.toList := by
  have facts := facts_pull host place content
  rw [gives] at facts
  exact facts

/-- The facts after the cutter was polled, whatever came of it. -/
theorem facts_polled {cutter : Cutter Content} {outcome : Cutter.Outcome}
    (polled :
      place.upload.cutter.poll host.recording.source place =
        (after, cutter, outcome)) :
    ∃ given, after.world.facts = place.world.facts ++ given ∧
      ∀ event ∈ given, event = .ended ∨ ∃ buffer, event = .drew buffer := by
  let adds (before after : Place (Recorded World) Content (Marked Phase)) :=
    ∃ given, after.world.facts = before.world.facts ++ given ∧
      ∀ event ∈ given, event = .ended ∨ ∃ buffer, event = .drew buffer
  have kept :
      adds place
        (place.upload.cutter.poll host.recording.source place).1 := by
    refine Cutter.poll_world (R := adds) ?_ ?_ ?_ place
      place.upload.cutter
    · exact fun place =>
        ⟨[], (List.append_nil _).symm, fun _ member => by cases member⟩
    · rintro first second third ⟨front, same, left⟩ ⟨back, again, right⟩
      refine ⟨front ++ back, by rw [again, same, List.append_assoc], ?_⟩
      intro event member
      exact (List.mem_append.mp member).elim (left event) (right event)
    · intro place content
      exact ⟨_, facts_pull host place content,
        fun _ member => Pull.eq_of_mem_event member⟩
  rw [polled] at kept
  exact kept

/-! ## What a cutter makes of the facts -/

/-- What becomes of a cutter and of the facts when buffers are drawn. -/
structure Cutter.Draws
    (place after : Place (Recorded World) Content (Marked Phase))
    (cutter later : Cutter Content) : Prop where
  plan : later.plan = cutter.plan
  emitted : later.emitted = cutter.emitted
  gauge : later.Gauge (drawn after.world.facts).length
  given : ∃ given, after.world.facts = place.world.facts ++ given ∧
    ∀ event ∈ given, ∃ buffer, event = .drew (.ok buffer)
  held : ∃ more, drawn after.world.facts = drawn place.world.facts ++ more ∧
    later.held = cutter.held ++ more

namespace Cutter.Draws

variable {middle : Place (Recorded World) Content (Marked Phase)}
  {cutter filled : Cutter Content} {beginning buffer : Bytes}
  {content : Content}

/-- At first nothing is drawn. -/
theorem refl (gauge : cutter.Gauge (drawn place.world.facts).length) :
    Draws place place cutter cutter :=
  ⟨rfl, rfl, gauge, ⟨[], (List.append_nil _).symm, by simp⟩,
    [], (List.append_nil _).symm, (List.append_nil _).symm⟩

theorem want (draws : Draws place after cutter filled) :
    filled.want = cutter.want := by
  rw [Cutter.want, Cutter.want, draws.plan, draws.emitted]

/-- One more buffer is drawn. -/
theorem fill (draws : Draws place middle cutter filled)
    (needs : filled.demand = .input beginning)
    {smaller : host.size content < host.size filled.content}
    (gives :
      host.recording.source.pull middle filled.content =
        (after, .item (.ok buffer) content smaller))
    {received : UInt64}
    (counted : Word.add filled.received buffer.length = .ok received) :
    Draws place after cutter
      (filled.fill beginning buffer content received) := by
  have facts : after.world.facts =
      middle.world.facts ++ [.drew (.ok buffer)] :=
    facts_of_pull host gives
  have more := drawn_drew_of_counted draws.gauge.received counted
  rw [← facts] at more
  obtain ⟨given, same, each⟩ := draws.given
  obtain ⟨before, bytes, held⟩ := draws.held
  refine ⟨draws.plan, draws.emitted, ?_, ?_, before ++ buffer, ?_, ?_⟩
  · rw [more, List.length_append]
    exact draws.gauge.fill needs content counted
  · refine ⟨given ++ [.drew (.ok buffer)], ?_, ?_⟩
    · rw [facts, same, List.append_assoc]
    · intro event member
      rcases List.mem_append.mp member with old | new
      · exact each event old
      · exact ⟨buffer, List.mem_singleton.mp new⟩
  · rw [more, bytes, List.append_assoc]
  · rw [← List.append_assoc, ← held,
      (held_of_demand_eq_input draws.gauge.tidy needs).1]
    rfl

/-- A cutter holds what it held when a poll gives it no buffer. -/
theorem empty (draws : Draws place middle cutter filled)
    (needs : filled.demand = .input beginning) (content : Content)
    {given : List Event}
    (facts : after.world.facts = middle.world.facts ++ given)
    (each : ∀ event ∈ given, ∃ buffer, event = .drew (.ok buffer))
    (same : drawn after.world.facts = drawn middle.world.facts) :
    Draws place after cutter (filled.empty beginning content) := by
  obtain ⟨earlier, before, all⟩ := draws.given
  obtain ⟨more, bytes, held⟩ := draws.held
  refine ⟨draws.plan, draws.emitted, ?_, ?_, more, ?_, ?_⟩
  · rw [same]
    exact draws.gauge.empty needs content
  · refine ⟨earlier ++ given, ?_, ?_⟩
    · rw [facts, before, List.append_assoc]
    · intro event member
      exact (List.mem_append.mp member).elim (all event) (each event)
  · rw [same, bytes]
  · rw [← held, (held_of_demand_eq_input draws.gauge.tidy needs).1]
    exact List.append_nil _

end Cutter.Draws

/-- What a poll makes of a cutter and of the facts, by what it comes to. -/
def Cutter.Yields
    (place after : Place (Recorded World) Content (Marked Phase))
    (cutter later : Cutter Content) : Outcome → Prop
  | .pending => Draws place after cutter later ∧ later.rest = []
  | .broken panic =>
    Draws place after cutter later ∧
      (later.demand = .broken panic ∨
        panic = .addition ∧
          UInt64.size ≤ (after.world.facts.flatMap Event.bytes).length)
  | .part body =>
    ∃ filled, Draws place after cutter filled ∧
      filled.held = body ++ later.held ∧ body.length = cutter.want ∧
      later.Gauge (drawn after.world.facts).length
  | .ended =>
    ∃ middle filled, Draws place middle cutter filled ∧
      after.world.facts = middle.world.facts ++ [.ended] ∧
      (drawn middle.world.facts).length = cutter.plan.total
  | .failed _ => True

/-- The last look of a poll draws nothing that counts. -/
theorem Cutter.Draws.look
    {middle : Place (Recorded World) Content (Marked Phase)}
    {cutter filled later : Cutter Content} {outcome : Cutter.Outcome}
    (draws : Draws place middle cutter filled)
    (look :
      Look host.recording.source middle filled after later
        (some outcome)) :
    Yields place after cutter later outcome := by
  cases look with
  | @cuts body rest full =>
      obtain ⟨held, length⟩ := held_of_demand_eq_part full
      exact ⟨filled, draws, held, length.trans draws.want,
        draws.gauge.cut full⟩
  | jams jammed => exact ⟨draws, .inl jammed⟩
  | waits needs gives =>
      have facts : after.world.facts = middle.world.facts ++ [] :=
        facts_of_pull host gives
      refine ⟨draws.empty needs _ facts (by simp) ?_, rfl⟩
      rw [facts, List.append_nil]
  | ends needs gives complete =>
      refine ⟨middle, filled, draws, facts_of_pull host gives, ?_⟩
      rw [← draws.plan]
      exact draws.gauge.eq_total needs complete
  | @bursts _ beginning buffer content panic smaller needs gives uncounted =>
      have facts : after.world.facts =
          middle.world.facts ++ [.drew (.ok buffer)] :=
        facts_of_pull host gives
      have large := Word.add_eq_error.mp uncounted
      have given := length_drawn_le middle.world.facts
      refine ⟨draws.empty needs _ facts (by simp) ?_,
        .inr ⟨large.1, Nat.le_trans large.2 ?_⟩⟩
      · rw [facts]
        exact drawn_drew_of_uncounted draws.gauge.received uncounted
      · rw [facts, List.flatMap_append, List.flatMap_singleton,
          List.length_append, draws.gauge.received]
        exact Nat.add_le_add_right given _
  | exceeds => exact trivial
  | lacks => exact trivial
  | breaks => exact trivial
  | overflows => exact trivial

/-- What polling a cutter that goes on makes of it. -/
theorem Cutter.yields_of_polled {cutter : Cutter Content}
    {outcome : Cutter.Outcome}
    (gauge :
      place.upload.cutter.Gauge (drawn place.world.facts).length)
    (going : place.upload.cutter.finished = false)
    (polled :
      place.upload.cutter.poll host.recording.source place =
        (after, cutter, outcome)) :
    Yields place after place.upload.cutter cutter outcome := by
  obtain ⟨middle, filled, draws, look⟩ :=
    poll_keeps
      (fun middle filled => Draws place middle place.upload.cutter filled)
      (fun draws needs gives counted _ => draws.fill needs gives counted)
      going (.refl gauge)
  rw [polled] at look
  exact draws.look look

/-- Facts may have been added, and none was taken back. -/
def Recorded.Grows (before after : Recorded World) : Prop :=
  ∃ given, after.facts = before.facts ++ given

theorem Recorded.Grows.refl (recorded : Recorded World) :
    recorded.Grows recorded :=
  ⟨[], (List.append_nil _).symm⟩

theorem Recorded.Grows.trans {first second third : Recorded World}
    (left : first.Grows second) (right : second.Grows third) :
    first.Grows third := by
  rcases left with ⟨front, same⟩
  rcases right with ⟨back, again⟩
  exact ⟨front ++ back, by rw [again, same, List.append_assoc]⟩

/-- Bytes that were drawn stay drawn. -/
theorem Recorded.Grows.prefix_drawn {before after : Recorded World}
    (grows : before.Grows after) :
    drawn before.facts <+: drawn after.facts := by
  rcases grows with ⟨given, same⟩
  rw [same]
  exact prefix_drawn_append _ _

/-- What is witnessed is added to the facts. -/
theorem Recorded.grows_witness {Outcome : Type}
    (recorded : Recorded World) (session : Session) (event : Event)
    (reply : Reply World Outcome) (result : Option Event) :
    recorded.Grows (recorded.witness session event reply result) :=
  ⟨_, (facts_witness recorded session event reply result).trans
    (List.append_assoc _ _ _)⟩

/-- No step takes back a fact. -/
theorem Step.grows {later : Place (Recorded World) Content (Marked Phase)}
    {outcome : Option Outcome}
    (step : Step host.recording place later outcome) :
    place.world.Grows later.world := by
  apply step.keeps_world place.world.Grows (Recorded.Grows.refl _)
  · intro recorded session content grows
    exact grows.trans (recorded.grows_witness _ _ _ _)
  · intro request marked polls
    exact place.world.grows_witness _ _ _ _

/-- No poll takes back a fact. -/
theorem Place.grows_poll (host : Host World Content Phase)
    (place : Place (Recorded World) Content (Marked Phase)) :
    place.world.Grows (place.poll host.recording).1.world := by
  cases resolved : place.upload.resolved with
  | true =>
      rw [Place.poll_of_resolved host.recording resolved]
      exact Recorded.Grows.refl _
  | false =>
      obtain ⟨middle, still, _, last⟩ :=
        Place.poll_keeps (fun later => place.world.Grows later.world)
          (fun grows _ step => grows.trans step.grows)
          resolved (Recorded.Grows.refl _)
      exact still.trans last.grows

/-- No move takes back a fact. -/
theorem Place.grows_record (host : Host World Content Phase)
    (place : Place (Recorded World) Content (Marked Phase))
    (move : Move World Content) :
    place.world.Grows (place.record host move).world := by
  cases move with
  | poll =>
      apply (place.grows_poll host).trans
      exact ⟨_, Recorded.facts_note _ _ _⟩
  | pause => exact ⟨_, Recorded.facts_note _ _ _⟩
  | wake number => exact Recorded.Grows.refl _
  | change change => exact Recorded.Grows.refl _
  | feed feed => exact Recorded.Grows.refl _

end Steps

end Multipart
