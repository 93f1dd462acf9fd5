import Multipart.Proofs.Cutter.Holding
import Multipart.Proofs.Upload.Keeping
import Multipart.Proofs.Upload.Facts
import Multipart.Proofs.Upload.Sound

/-!
# What an upload has drawn

On whatever host, the bytes that an upload has drawn are those of the parts
it has cut and those its cutter holds.  So an upload whose source is done has
drawn every byte of its plan, without a failure, when its source ended.  The
main statement, `Regular.step`, says that every step keeps this.
-/

namespace Multipart

variable {World Content Phase : Type}

/-! ## What a cutter has drawn -/

/-- Holds for what the source brings about. -/
def Event.isGiven : Event → Bool
  | .drew _ => true
  | .ended => true
  | _ => false

theorem Event.bytes_of_not_isGiven {event : Event}
    (asked : event.isGiven = false) : event.bytes = [] := by
  cases event with
  | drew => cases asked
  | _ => rfl

/-- Holds when the source has not failed. -/
def IsClean (events : List Event) : Prop :=
  ∀ failure, .drew (.error failure) ∉ events

/-- Holds when the source has ended after so many bytes and no failure. -/
def Whole (total : Nat) (events : List Event) : Prop :=
  ∃ front back, events = front ++ .ended :: back ∧
    (drawn front).length = total ∧ IsClean front

/-- What a source has given is given for good. -/
theorem Whole.append {total : Nat} {events : List Event}
    (whole : Whole total events) (more : List Event) :
    Whole total (events ++ more) := by
  rcases whole with ⟨front, back, rfl, total, clean⟩
  exact ⟨front, back ++ more, by simp, total, clean⟩

namespace Cutter

/-- How a cutter that goes on depends on what it has drawn. -/
structure Gauged (cutter : Cutter Content) (facts : List Event) : Prop
    extends Gauge cutter (drawn facts).length where
  clean : IsClean facts

namespace Gauged

variable {cutter : Cutter Content} {facts : List Event}

/-- Of the facts only those of the source count. -/
theorem add (gauged : cutter.Gauged facts) {events : List Event}
    (asked : ∀ event ∈ events, event.isGiven = false) :
    cutter.Gauged (facts ++ events) := by
  refine ⟨?_, ?_⟩
  · rw [drawn_append_of_dry facts fun event member =>
      event.bytes_of_not_isGiven (asked event member)]
    exact gauged.toGauge
  · intro failure member
    rcases List.mem_append.mp member with old | new
    · exact gauged.clean failure old
    · exact Bool.noConfusion (asked _ new)

/-- A buffer may be drawn that the cutter needs. -/
theorem fill (gauged : cutter.Gauged facts) {beginning buffer : Bytes}
    (needs : cutter.demand = .input beginning) (content : Content)
    {received : UInt64}
    (counted : Word.add cutter.received buffer.length = .ok received) :
    (cutter.fill beginning buffer content received).Gauged
      (facts ++ [.drew (.ok buffer)]) := by
  refine ⟨?_, ?_⟩
  · rw [drawn_drew_of_counted gauged.received counted, List.length_append]
    exact gauged.toGauge.fill needs content counted
  · intro failure member
    rcases List.mem_append.mp member with old | new
    · exact gauged.clean failure old
    · cases List.mem_singleton.mp new

end Gauged

/-- What a cutter has drawn after a poll, by what the poll comes to. -/
def Gauges (later : Cutter Content) (facts : List Event) :
    Outcome → Prop
  | .pending => later.Gauged facts ∧ later.rest = []
  | .part _ => later.Gauged facts
  | .ended =>
    Whole later.plan.total facts ∧
      (drawn facts).length = later.plan.total
  | .failed _ => True
  | .broken _ => later.Gauged facts

end Cutter

section Polls

variable {host : Host World Content Phase}
  {place after : Place (Recorded World) Content (Marked Phase)}

/-- Drawing buffers is no failure of the source. -/
theorem Cutter.Draws.isClean {cutter later : Cutter Content}
    (draws : Draws place after cutter later)
    (clean : IsClean place.world.facts) : IsClean after.world.facts := by
  obtain ⟨given, facts, each⟩ := draws.given
  intro failure member
  rw [facts] at member
  rcases List.mem_append.mp member with old | new
  · exact clean failure old
  · obtain ⟨buffer, same⟩ := each _ new
    cases same

/-- What a gauged cutter has drawn after it was polled. -/
theorem Cutter.Gauged.polled {cutter : Cutter Content} {outcome : Outcome}
    (gauged : place.upload.cutter.Gauged place.world.facts)
    (going : place.upload.cutter.finished = false)
    (polled :
      place.upload.cutter.poll host.recording.source place =
        (after, cutter, outcome)) :
    cutter.Gauges after.world.facts outcome := by
  have kept := poll_cutter host.recording.source place place.upload.cutter
  have yields := yields_of_polled gauged.toGauge going polled
  rw [polled] at kept
  cases outcome with
  | pending =>
      exact ⟨⟨yields.1.gauge, yields.1.isClean gauged.clean⟩, yields.2⟩
  | part body =>
      obtain ⟨filled, draws, _, _, gauge⟩ := yields
      exact ⟨gauge, draws.isClean gauged.clean⟩
  | ended =>
      obtain ⟨middle, filled, draws, ends, total⟩ := yields
      rw [← kept.1] at total
      rw [ends]
      refine ⟨⟨middle.world.facts, [], rfl, total,
        draws.isClean gauged.clean⟩, ?_⟩
      rw [drawn_concat, Event.draw_of_dry rfl, total]
  | failed failure => exact trivial
  | broken panic => exact ⟨yields.1.gauge, yields.1.isClean gauged.clean⟩

end Polls

/-! ## What an upload has drawn -/

/-- How an upload depends on what it has drawn. -/
structure Measured (plan : Plan) (upload : Upload Content Phase)
    (facts : List Event) : Prop where
  gauged : upload.cutter.finished = false → upload.cutter.Gauged facts
  /-- The source was done when every byte of the plan was drawn. -/
  ended : upload.session.sourceDone = true →
    Whole plan.total facts ∧ (drawn facts).length = plan.total
  /-- An upload is completed only when its source is done. -/
  closing : upload.closing.isSome = true →
    upload.session.sourceDone = true

namespace Measured

variable {plan : Plan} {upload later : Upload Content Phase}
  {facts : List Event}

/-- Facts may be added that the source has no part in. -/
theorem add (measured : Measured plan upload facts) {events : List Event}
    (asked : ∀ event ∈ events, event.isGiven = false) :
    Measured plan upload (facts ++ events) where
  gauged going := (measured.gauged going).add asked
  ended done := by
    rcases measured.ended done with ⟨whole, total⟩
    refine ⟨whole.append events, ?_⟩
    rw [drawn_append_of_dry facts fun event member =>
      event.bytes_of_not_isGiven (asked event member)]
    exact total
  closing := measured.closing

/-- An upload may change otherwise, as long as it draws nothing. -/
theorem reduce (measured : Measured plan upload facts)
    (cutter : later.cutter = upload.cutter)
    (sourceDone : later.session.sourceDone = upload.session.sourceDone)
    (closing : later.closing.isSome = true →
      upload.closing.isSome = true) :
    Measured plan later facts where
  gauged := by
    rw [cutter]
    exact measured.gauged
  ended := by
    rw [sourceDone]
    exact measured.ended
  closing closed := sourceDone.trans (measured.closing (closing closed))

theorem heard (measured : Measured plan upload facts)
    (heard : Upload.Heard upload later) :
    Measured plan later facts := by
  refine measured.reduce heard.cutter heard.sourceDone fun closed => ?_
  rcases heard.closing with same | same
  · rwa [same] at closed
  · rwa [same, Option.isSome_map] at closed

theorem resolve (measured : Measured plan upload facts) :
    Measured plan upload.resolve facts :=
  measured.reduce rfl rfl id

theorem unclose (measured : Measured plan upload facts) :
    Measured plan { upload with closing := none } facts :=
  measured.reduce rfl rfl nofun

theorem fail (measured : Measured plan upload facts)
    (host : Host World Content Phase) (failure : Failure) :
    Measured plan (upload.fail host failure).1 facts := by
  rw [Upload.fail]
  cases upload.session.verdict with
  | running =>
      exact measured.reduce rfl rfl fun closed => by cases closed
  | paused => exact measured.resolve
  | failed => exact measured.resolve

theorem sendPart (measured : Measured plan upload facts)
    (host : Host World Content Phase) (body : Bytes) :
    Measured plan (upload.sendPart host body) facts := by
  rw [Upload.sendPart]
  dsimp only
  split <;> exact measured.reduce rfl rfl id

/-- The cutter may take in what the source gives. -/
theorem withCutter (measured : Measured plan upload facts)
    {cutter : Cutter Content} {after : List Event}
    (unfinished : upload.session.sourceDone = false)
    (gauged : cutter.finished = false → cutter.Gauged after) :
    Measured plan { upload with cutter } after where
  gauged := gauged
  ended done := by
    change upload.session.sourceDone = true at done
    rw [unfinished] at done
    cases done
  closing := measured.closing

end Measured

/-! ## Every step -/

namespace Measured

variable {plan : Plan} {host : Host World Content Phase}
  {place : Place (Recorded World) Content (Marked Phase)}

/-- A request may be polled, whatever comes of it. -/
theorem hear_poll (host : Host World Content Phase)
    (measured : Measured plan place.upload place.world.facts)
    (request : Request) (marked : Marked Phase) :
    let heard := place.hear
      (host.recording.poll place.world place.upload.session request marked)
    Measured plan heard.upload heard.world.facts := by
  intro heard
  rw [facts_poll, List.append_assoc]
  apply (measured.heard (place.heard _)).add
  intro event member
  rcases List.mem_append.mp member with sent | answered
  · rw [Marked.eq_of_mem_facts sent]
    rfl
  · rcases Response.eq_of_mem_event answered with ⟨_, _, rfl⟩
    rfl

theorem heardPart (host : Host World Content Phase)
    (measured : Measured plan place.upload place.world.facts)
    (flight : Flight (Marked Phase))
    (queued : List (Flight (Marked Phase))) :
    let after := place.heardPart host.recording flight queued
    Measured plan after.upload after.world.facts := by
  let polling := place.become
    (place.upload.withPool (place.upload.pool.polling flight queued))
  have measured : Measured plan polling.upload polling.world.facts :=
    measured.reduce rfl rfl id
  exact measured.hear_poll host _ _

/-- Every step keeps what is known of the bytes that were drawn. -/
theorem step {target : Target} {existing : PartTable Receipt}
    (measured : Measured plan place.upload place.world.facts)
    (sound : place.upload.Sound target plan existing)
    (unresolved : place.upload.resolved = false)
    {later : Place (Recorded World) Content (Marked Phase)}
    {outcome : Option Outcome}
    (step : Step host.recording place later outcome) :
    Measured plan later.upload later.world.facts := by
  have drawn {after : Place (Recorded World) Content (Marked Phase)}
      {cutter : Cutter Content} {outcome : Cutter.Outcome}
      (may : place.upload.MayCut)
      (polled :
        place.upload.cutter.poll host.recording.source place =
          (after, cutter, outcome)) :
      Upload.Heard place.upload after.upload ∧
        cutter.Gauges after.world.facts outcome ∧
        Cutter.GoesOn cutter outcome := by
    have going := sound.unfinished unresolved may
    have cut := Cutter.polled host.recording polled
    exact ⟨cut.heard, (measured.gauged going).polled going polled,
      cut.goesOn going⟩
  cases step with
  | withdrawn => exact measured.reduce rfl rfl id
  | waiting => exact (measured.heardPart host _ _).reduce rfl rfl id
  | recalled => exact (measured.heardPart host _ _).reduce rfl rfl id
  | received => exact (measured.heardPart host _ _).reduce rfl rfl id
  | @refused flight queued _ _ opened front wanted answer left =>
      subst left
      have heard := measured.heardPart host flight queued
      refine Measured.fail ?_ host.recording _
      exact heard.reduce rfl rfl id
  | resting => exact measured
  | starved may polled =>
      rcases drawn may polled with ⟨heard, gauges, _⟩
      exact (measured.heard heard).withCutter
        (heard.sourceDone.trans may.unfinished) fun _ => gauges.1
  | cut may polled =>
      rcases drawn may polled with ⟨heard, gauges, _⟩
      apply Measured.sendPart
      exact (measured.heard heard).withCutter
        (heard.sourceDone.trans may.unfinished) fun _ => gauges
  | spoiled may polled =>
      rcases drawn may polled with ⟨heard, _, finished⟩
      apply Measured.fail
      refine (measured.heard heard).withCutter
        (heard.sourceDone.trans may.unfinished) fun going => ?_
      cases (show _ = true from finished).symm.trans going
  | @exhausted after cutter may polled =>
      rcases drawn may polled with ⟨heard, whole, finished, _⟩
      have planned : cutter.plan = plan := by
        rw [(Cutter.polled host.recording polled).follows, heard.cutter]
        exact sound.follows
      change Whole cutter.plan.total _ ∧ _ = cutter.plan.total at whole
      rw [planned] at whole
      exact
        { gauged := fun going => by cases finished.symm.trans going
          ended := fun _ => whole
          closing := fun _ => rfl }
  | snapped may polled =>
      rcases drawn may polled with ⟨heard, gauges, _⟩
      exact (measured.heard heard).withCutter
        (heard.sourceDone.trans may.unfinished) fun _ => gauges
  | closes opened may assembled =>
      simp only [Session.mayComplete, Bool.and_eq_true] at may
      exact { measured with closing := fun _ => may.1.1.1 }
  | stumbles => exact measured.reduce rfl rfl id
  | parks => exact measured.resolve
  | unclosed => exact measured.unclose.resolve
  | @closing closing _ unaborted closed wanted answer kept =>
      have heard := place.heard (host.recording.askClosing place closing)
      have done : place.upload.session.sourceDone = true :=
        measured.closing (by rw [closed]; rfl)
      have polled := measured.hear_poll host
        (.complete place.upload.session.target closing.receipts)
        closing.phase
      exact
        { gauged := polled.gauged
          ended := polled.ended
          closing := fun _ => heard.sourceDone.trans done }
  | reopened => exact (measured.hear_poll host _ _).unclose.resolve
  | rejected unaborted closed wanted answer left =>
      subst left
      exact (measured.hear_poll host _ _).unclose.fail host.recording _
  | completes =>
      exact (measured.hear_poll host _ _).reduce rfl rfl
        fun closed => by cases closed
  | collapsed =>
      exact (measured.hear_poll host _ _).reduce rfl rfl fun closed =>
        (Upload.isSome_closing_rephase _ _).symm.trans closed
  | aborting => exact (measured.hear_poll host _ _).reduce rfl rfl id
  | aborted =>
      exact Measured.resolve ((measured.hear_poll host _ _).reduce rfl rfl id)

end Measured

/-! ## Every recorded upload -/

/-- What is known of every recorded upload, on any host. -/
structure Regular (target : Target) (plan : Plan)
    (existing : PartTable Receipt)
    (place : Place (Recorded World) Content (Marked Phase)) : Prop where
  sound : place.upload.Sound target plan existing
  measured : Measured plan place.upload place.world.facts

namespace Regular

variable {target : Target} {plan : Plan} {existing : PartTable Receipt}
  {host : Host World Content Phase}
  {place later : Place (Recorded World) Content (Marked Phase)}

theorem step {outcome : Option Outcome}
    (regular : Regular target plan existing place)
    (unresolved : place.upload.resolved = false)
    (step : Step host.recording place later outcome) :
    Regular target plan existing later :=
  ⟨regular.sound.step unresolved step,
    regular.measured.step regular.sound unresolved step⟩

/-- An event that is no fact may be written down. -/
theorem note (regular : Regular target plan existing place)
    {event : Event} (idle : event.isFact = false) :
    Regular target plan existing (place.note event) := by
  refine ⟨regular.sound, ?_⟩
  rw [show (place.note event).world.facts = place.world.facts from
    Recorded.facts_note_of_idle _ _ idle]
  exact regular.measured

/-- What an upload hears between two polls leaves it regular. -/
theorem heard (regular : Regular target plan existing place)
    {upload : Upload Content (Marked Phase)}
    (heard : Upload.Heard place.upload upload) :
    Regular target plan existing (place.become upload) :=
  ⟨regular.sound.heard heard, regular.measured.heard heard⟩

theorem activate (regular : Regular target plan existing place) :
    Regular target plan existing place.activate :=
  ⟨regular.sound.activate, regular.measured.reduce rfl rfl id⟩

theorem change (regular : Regular target plan existing place)
    (world : World) :
    Regular target plan existing
      (place.change fun recorded => { recorded with world }) :=
  ⟨regular.sound, regular.measured⟩

/-- A cutter does not look at what its source is going to give. -/
theorem feed (regular : Regular target plan existing place)
    (feed : Content → Content) :
    Regular target plan existing (place.feed feed) := by
  refine ⟨regular.sound.feed feed, fun going => ?_,
    regular.measured.ended, regular.measured.closing⟩
  have gauged := regular.measured.gauged going
  exact ⟨gauged.toGauge.feed _, gauged.clean⟩

/-- An upload that has not been driven is regular. -/
theorem begin (world : World) (target : Target) (plan : Plan)
    (given : List Receipt) (limit : Option Nat) (content : Content) :
    Regular target plan
      (Progress.ofReceipts
        (given.filter fun receipt =>
          plan.contains receipt.number)).existing
      (Place.begin world (.ofPlan target plan given limit content) :
        Place (Recorded World) Content (Marked Phase)) where
  sound := Upload.sound_ofPlan target plan given limit content
  measured :=
    { gauged := fun _ =>
        ⟨⟨Nat.zero_le _, rfl, rfl⟩, fun _ member => by cases member⟩
      ended := nofun
      closing := nofun }

end Regular

end Multipart
