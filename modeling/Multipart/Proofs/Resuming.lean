import Multipart.Proofs.Sending
import Multipart.Proofs.Stamping
import Multipart.Proofs.Storing

/-!
# Uploads that are paused and resumed

An upload may be taken up again with any checkpoint that was handed out for
it, as often as one likes, and the attempts may even run side by side.  All
of them fill the store under one id.  The main statement, `resumed_exactly`,
says that no such checkpoint is refused, that every attempt follows the plan
of the first and sends nothing that was listed for it, and that whichever
attempt resolves with an object has stored the whole content.
-/

namespace Multipart

variable {World Content Phase : Type}

/-- One attempt at an upload, which was started or resumed. -/
structure Attempt (World Content Phase : Type) where
  host : Host World Content Phase
  upload : Upload Content (Marked Phase)
  /-- What the store listed when the upload was resumed. -/
  listed : List Receipt := []
  history : History := []

namespace Attempt

/-- An attempt in its surroundings. -/
def place (attempt : Attempt World Content Phase) (world : World) :
    Place (Recorded World) Content (Marked Phase) where
  world := { world, history := attempt.history }
  upload := attempt.upload

/-- The attempt that has come to a place. -/
def arrive (attempt : Attempt World Content Phase)
    (place : Place (Recorded World) Content (Marked Phase)) :
    Attempt World Content Phase :=
  { attempt with
    upload := place.upload
    history := place.world.history }

/-- The receipts that an attempt began with. -/
def existing (attempt : Attempt World Content Phase) (plan : Plan) :
    PartTable Receipt :=
  (Progress.ofReceipts
    (attempt.listed.filter fun receipt =>
      plan.contains receipt.number)).existing

/-- A part is among them when it is in the plan and was listed. -/
theorem find?_existing (attempt : Attempt World Content Phase) {plan : Plan}
    {number : PartNumber} (within : plan.contains number = true) :
    (attempt.existing plan).find? number = none ↔
      number ∉ attempt.listed.map (·.number) :=
  Progress.find?_existing_filter within attempt.listed

end Attempt

section Store

variable {store : World → Store} {target : Target} {plan : Plan}
  {content : Bytes}

/-- What the others do to the store is nothing to an attempt. -/
theorem Filling.among {attempt : Attempt World Content Phase}
    {world later : World}
    (filling : Filling store target plan (attempt.existing plan) content
      (attempt.place world))
    (holds : (store later).Holds target plan content) :
    Filling store target plan (attempt.existing plan) content
      (attempt.place later) where
  accounted :=
    ⟨filling.accounted.sound, filling.accounted.accounts,
      filling.accounted.pending⟩
  carries := filling.carries
  holds := holds

end Store

/-- All attempts at one upload, in the world that they share. -/
structure Attempts (World Content Phase : Type) where
  world : World
  each : List (Attempt World Content Phase)

/-- How the receipts of a resumed upload come to be known. -/
inductive Uploader.Lists (checkpoint : Checkpoint) (target : Target)
    (before after : Store) : List Receipt → Prop where
  | asked {middle : Store} {listed : List Receipt}
      (wanted : listing? checkpoint target = some (.list target))
      (apart : before.Elsewhere target.id middle)
      (serves : middle.serve (.list target) = (after, .ok listed)) :
      Lists checkpoint target before after listed
  | skipped (unwanted : listing? checkpoint target = none)
      (apart : before.Elsewhere target.id after) :
      Lists checkpoint target before after []

namespace Attempts

/-- One of the attempts makes a move. -/
def moved (world : World) (front : List (Attempt World Content Phase))
    (attempt : Attempt World Content Phase)
    (back : List (Attempt World Content Phase))
    (move : Move World Content) : Attempts World Content Phase :=
  let place := (attempt.place world).record attempt.host move
  { world := place.world.world
    each := front ++ attempt.arrive place :: back }

/--
What may happen next: an attempt makes a move, or another one begins with a
checkpoint that was handed out, as it is or read back from its written form.
-/
inductive Step (store : World → Store) (length : UInt64)
    (target : Target) :
    Attempts World Content Phase → Attempts World Content Phase →
      Prop where
  | move {world : World} {front back : List (Attempt World Content Phase)}
      {attempt : Attempt World Content Phase}
      (move : Move World Content)
      (apart : ∀ {change}, move = .change change →
        (store world).Elsewhere target.id (store (change world))) :
      Step store length target ⟨world, front ++ attempt :: back⟩
        (moved world front attempt back move)
  | resume {world later : World}
      {each : List (Attempt World Content Phase)}
      {giver : Attempt World Content Phase} {token read : Checkpoint}
      {host : Host World Content Phase} {plan : Plan}
      {listed : List Receipt} (uploader : Uploader) (source : Content)
      (member : giver ∈ each) (handed : giver.history.Hands token)
      (reads : read = token ∨ Checkpoint.ofJson token.toJson = .ok read)
      (relays : host.Relays store read.id)
      (accepted : Uploader.resumePlan read length = .ok plan)
      (lists : Uploader.Lists read ⟨read.id, target.location⟩
        (store world) (store later) listed) :
      Step store length target ⟨world, each⟩
        ⟨later, each ++
          [{ host
             upload :=
               uploader.upload ⟨read.id, target.location⟩ plan listed
                 source
             listed }]⟩

/-- The only attempt so far: an upload that is started. -/
def begin (host : Host World Content Phase) (uploader : Uploader)
    (world : World) (target : Target) (plan : Plan) (source : Content) :
    Attempts World Content Phase where
  world
  each := [{ host, upload := uploader.upload target plan [] source }]

/-- Holds when the sources of all attempts give one content. -/
def Give (attempts : Attempts World Content Phase) (content : Bytes) :
    Prop :=
  ∀ attempt ∈ attempts.each, attempt.history.Gives content

/-! ## What every step keeps -/

variable {store : World → Store} {length : UInt64} {target : Target}
  {plan : Plan} {content : Bytes}

/-- Holds when the sources have given nothing but the beginning of it. -/
def Begin (attempts : Attempts World Content Phase) (content : Bytes) :
    Prop :=
  ∀ attempt ∈ attempts.each, drawn attempt.history.facts <+: content

/-- What is known of the attempts at an upload. -/
structure Kept (store : World → Store) (target : Target) (plan : Plan)
    (content : Bytes) (attempts : Attempts World Content Phase) :
    Prop where
  relays : ∀ attempt ∈ attempts.each,
    attempt.host.Relays store target.id
  stamped : ∀ attempt ∈ attempts.each,
    Stamped target plan (attempt.existing plan)
      (attempt.place attempts.world)
  filling : attempts.Begin content → ∀ attempt ∈ attempts.each,
    Filling store target plan (attempt.existing plan) content
      (attempt.place attempts.world)

namespace Kept

/-- A move of one attempt takes nothing from what is known of them all. -/
theorem move {world : World} {front back : List (Attempt World Content Phase)}
    {attempt : Attempt World Content Phase}
    (kept : Kept store target plan content ⟨world, front ++ attempt :: back⟩)
    {move : Move World Content}
    (apart : ∀ {change}, move = .change change →
      (store world).Elsewhere target.id (store (change world))) :
    Kept store target plan content
      (moved world front attempt back move) := by
  have mine : attempt ∈ front ++ attempt :: back :=
    List.mem_append_right _ (List.mem_cons_self)
  let place := (attempt.place world).record attempt.host move
  have cases {other : Attempt World Content Phase}
      (member : other ∈ front ++ attempt.arrive place :: back) :
      other = attempt.arrive place ∨
        other ∈ front ++ attempt :: back := by
    simp only [List.mem_append, List.mem_cons] at member ⊢
    tauto
  constructor
  · intro other member
    rcases cases member with rfl | old
    · exact kept.relays attempt mine
    · exact kept.relays other old
  · intro other member
    rcases cases member with rfl | old
    · exact (Stamped.keeps attempt.host).record
        (kept.stamped attempt mine) move
    · have stamped := kept.stamped other old
      exact ⟨stamped.sound, stamped.stamps⟩
  · intro begun
    have last : drawn place.world.facts <+: content :=
      begun (attempt.arrive place)
        (List.mem_append_right _ (List.mem_cons_self))
    have before : Begin ⟨world, front ++ attempt :: back⟩ content := by
      intro other member
      rcases List.mem_append.mp member with left | right
      · exact begun other (List.mem_append_left _ left)
      rcases List.mem_cons.mp right with rfl | right
      · have grows := Place.grows_record other.host (other.place world) move
        exact grows.prefix_drawn.trans last
      · exact begun other
          (List.mem_append_right _ (List.mem_cons_of_mem _ right))
    have filling := (Filling.lasts (kept.relays attempt mine)).record
      (fun _ => kept.filling before attempt mine) apart last
    intro other member
    rcases cases member with rfl | old
    · exact filling
    · exact (kept.filling before other old).among filling.holds

/-- The plan of whoever resumes is the plan of the attempt before. -/
theorem plan_eq {attempts : Attempts World Content Phase}
    (kept : Kept store target plan content attempts)
    {uploader : Uploader} (accepted : uploader.startPlan length = .ok plan)
    {giver : Attempt World Content Phase} (member : giver ∈ attempts.each)
    {token : Checkpoint} (handed : giver.history.Hands token) :
    token.id = target.id ∧
      Uploader.resumePlan token length = .ok plan := by
  have names := (kept.stamped giver member).stamps token handed
  exact ⟨names.id, names.resumePlan_eq accepted⟩

/-- Another attempt may begin with what the store lists. -/
theorem join {world later : World}
    {each : List (Attempt World Content Phase)}
    {giver : Attempt World Content Phase}
    (kept : Kept store target plan content ⟨world, each⟩)
    (member : giver ∈ each) {host : Host World Content Phase}
    (relays : host.Relays store target.id) {checkpoint : Checkpoint}
    {listed : List Receipt}
    (lists : Uploader.Lists checkpoint target (store world) (store later)
      listed) (uploader : Uploader) (source : Content) :
    Kept store target plan content
      ⟨later, each ++
        [{ host, upload := uploader.upload target plan listed source
           listed }]⟩ := by
  have filled (holds : (store world).Holds target plan content) :
      (store later).Holds target plan content := by
    cases lists with
    | @asked middle _ wanted apart serves =>
        have served :
            (middle.serve (.list target)).1.Holds target plan content :=
          (holds.elsewhere apart).serve nofun
        rw [serves] at served
        exact served
    | skipped unwanted apart => exact holds.elsewhere apart
  constructor
  · intro other mem
    rcases List.mem_append.mp mem with old | new
    · exact kept.relays other old
    · obtain rfl := List.mem_singleton.mp new
      exact relays
  · intro other mem
    rcases List.mem_append.mp mem with old | new
    · have stamped := kept.stamped other old
      exact ⟨stamped.sound, stamped.stamps⟩
    · obtain rfl := List.mem_singleton.mp new
      exact ⟨Upload.sound_ofPlan target plan listed uploader.limit source,
        History.stamps_nil⟩
  · intro begun other mem
    have before : Begin ⟨world, each⟩ content := fun other old =>
      begun other (List.mem_append_left _ old)
    have holds := filled (kept.filling before giver member).holds
    rcases List.mem_append.mp mem with old | new
    · exact (kept.filling before other old).among holds
    · obtain rfl := List.mem_singleton.mp new
      exact Filling.begin listed uploader.limit source holds

/-- Whatever happens next takes nothing from what is known. -/
theorem step {attempts next : Attempts World Content Phase}
    (kept : Kept store target plan content attempts)
    {uploader : Uploader} (accepted : uploader.startPlan length = .ok plan)
    (step : Step store length target attempts next) :
    Kept store target plan content next := by
  cases step with
  | move move apart => exact kept.move apart
  | resume resuming source member handed reads relays resumed lists =>
      rcases kept.plan_eq accepted member handed with ⟨named, same⟩
      rename_i token read _ _ _
      have back : read = token := by
        rcases reads with rfl | reads
        · rfl
        · rw [Checkpoint.ofJson_written] at reads
          exact (Except.ok.inj reads).symm
      subst back
      obtain rfl := Except.ok.inj (same.symm.trans resumed)
      have aimed : (⟨read.id, target.location⟩ : Target) = target := by
        rw [named]
      rw [aimed] at lists ⊢
      rw [named] at relays
      exact kept.join member relays lists resuming source

/-- An upload that is started is the first attempt. -/
theorem begin {host : Host World Content Phase}
    (relays : host.Relays store target.id) (uploader : Uploader)
    {world : World} (holds : (store world).Holds target plan content)
    (source : Content) :
    Kept store target plan content
      (.begin host uploader world target plan source) := by
  constructor
  · intro attempt member
    obtain rfl := List.mem_singleton.mp member
    exact relays
  · intro attempt member
    obtain rfl := List.mem_singleton.mp member
    exact ⟨Upload.sound_ofPlan target plan [] uploader.limit source,
      History.stamps_nil⟩
  · intro _ attempt member
    obtain rfl := List.mem_singleton.mp member
    exact Filling.begin [] uploader.limit source holds

end Kept

/-- The attempts that may come of an upload that is started. -/
inductive Come (store : World → Store) (length : UInt64)
    (location : Location) (target : Target) (plan : Plan) :
    Attempts World Content Phase → Prop where
  | started {host : Host World Content Phase} {uploader : Uploader}
      {world : World} (relays : host.Relays store target.id)
      (starts : uploader.Starts length location target plan (store world))
      (source : Content) :
      Come store length location target plan
        (begin host uploader world target plan source)
  | next {attempts later : Attempts World Content Phase}
      (come : Come store length location target plan attempts)
      (step : Step store length target attempts later) :
      Come store length location target plan later

theorem Come.kept {location : Location}
    {attempts : Attempts World Content Phase}
    (come : Come store length location target plan attempts)
    (content : Bytes) :
    Kept store target plan content attempts ∧
      target.location = location ∧
      ∃ uploader : Uploader, uploader.startPlan length = .ok plan := by
  induction come with
  | @started host uploader world relays starts source =>
      rcases starts.created with ⟨origin, made, created, apart⟩
      rcases Store.holds_create created with ⟨holds, located⟩
      exact ⟨Kept.begin relays uploader (holds.elsewhere apart) source,
        located, uploader, starts.accepted⟩
  | next come step ih =>
      rcases ih with ⟨kept, located, uploader, accepted⟩
      exact ⟨kept.step accepted step, located, uploader, accepted⟩

/-- Holds when checkpoints are good, and attempts agree on one content. -/
structure Faithful (store : World → Store) (length : UInt64)
    (location : Location) (plan : Plan) (content : Bytes)
    (attempts : Attempts World Content Phase) : Prop where
  /-- No checkpoint is refused, and all are for the plan of the first. -/
  resumes : ∀ attempt ∈ attempts.each, ∀ token,
    attempt.history.Hands token →
      Checkpoint.ofJson token.toJson = .ok token ∧
        Uploader.resumePlan token length = .ok plan
  planned : ∀ attempt ∈ attempts.each, attempt.upload.session.plan = plan
  /-- No attempt sends a part that was listed for it. -/
  skips : attempts.Give content → ∀ attempt ∈ attempts.each,
    ∀ {aim number body},
      .sent (.part aim number body) ∈ attempt.history.events →
        number ∉ attempt.listed.map (·.number)
  /-- Whichever attempt resolves with an object has stored the content. -/
  stores : attempts.Give content → ∀ attempt ∈ attempts.each,
    ∀ {after completion},
      (attempt.place attempts.world).poll attempt.host.recording =
          (after, .resolved (.ok completion)) →
        after.world.history.Gives content →
          completion.location = location ∧
            (store after.world.world).object? location =
              some ⟨completion.tag, content⟩

/-- However an upload is paused and resumed, its attempts are faithful. -/
theorem resumed_exactly {location : Location}
    {attempts : Attempts World Content Phase}
    (come : Come store length location target plan attempts)
    (content : Bytes) :
    attempts.Faithful store length location plan content := by
  rcases come.kept content with ⟨kept, rfl, uploader, accepted⟩
  have filling (give : attempts.Give content) :=
    kept.filling fun attempt member => by
      have begins := (give attempt member).begins
      rw [← History.drawn_facts] at begins
      exact begins
  constructor
  · intro attempt member token handed
    exact ⟨Checkpoint.ofJson_written token,
      (kept.plan_eq accepted member handed).2⟩
  · exact fun attempt member => (kept.stamped attempt member).sound.planned
  · intro give attempt member aim number body sent
    rw [← History.mem_facts rfl] at sent
    have brings := (filling give attempt member).carries.sent sent
    exact (attempt.find?_existing brings.within).mp brings.absent
  · intro give attempt member after completion resolved last
    obtain ⟨-, located, object, -⟩ :=
      (filling give attempt member).resolves (kept.relays attempt member)
        resolved last
    exact ⟨located, object⟩

/-! ## An upload that is resumed -/

/-- A host that hands requests to its store as long as it has permits. -/
def gatedHost : Host (Store × Nat) Bytes Unit where
  unsent _ := ()
  poll world _ request _ :=
    match world.2 with
    | 0 => { world, outcome := .waiting () }
    | permits + 1 =>
      { world := ((world.1.serve request).1, permits)
        outcome := .ofConclusion () (world.1.serve request).2 }
  size := List.length
  pull world _ content := { world, outcome := .bytewise content }

theorem relays_gatedHost (id : UploadId) :
    gatedHost.Relays Prod.fst id where
  polls world _ request _ := by
    rcases world with ⟨store, permits⟩
    cases permits with
    | zero => exact .delayed .refl
    | succ permits => exact .of_serve id request store ()
  pulls _ _ _ := .refl

/-- The upload that is created in an empty store. -/
def gatedTarget : Target :=
  (({} : Store).create (.ofPair "bucket" "key")).2

/-- An attempt at three bytes in parts of two, with a permit for one. -/
def gatedStart : Place (Recorded (Store × Nat)) Bytes (Marked Unit) :=
  Place.begin ((({} : Store).create (.ofPair "bucket" "key")).1, 1)
    ((({} : Uploader).withPartSize 2).upload gatedTarget (.ofLength 3 2)
      [] [1, 2, 3])

/-- The attempt once it was polled and then paused. -/
def gatedPause : Place (Recorded (Store × Nat)) Bytes (Marked Unit) :=
  gatedStart.replay gatedHost [.poll, .pause]

def gatedToken : Checkpoint where
  id := gatedTarget.id
  partSize := 2
  totalParts := 2
  partsDone := 1

/-- What the store lists for the checkpoint: the part that had a permit. -/
def gatedListed : List Receipt :=
  match (gatedPause.world.world.1.serve (.list gatedTarget)).2 with
  | .ok listed => listed
  | _ => []

/-- The attempt that resumes the upload, with permits for all it sends. -/
def gatedAgain : Attempt (Store × Nat) Bytes Unit where
  host := gatedHost
  upload := ({} : Uploader).upload gatedTarget (.ofLength 3 2) gatedListed
    [1, 2, 3]
  listed := gatedListed

/-- The attempt that was paused. -/
def gatedFirst : Attempt (Store × Nat) Bytes Unit where
  host := gatedHost
  upload := gatedPause.upload
  history := gatedPause.world.history

/-- The attempts once the upload was resumed and permits were given. -/
def gated : Attempts (Store × Nat) Bytes Unit where
  world := (gatedPause.world.world.1, 9)
  each := [gatedFirst, gatedAgain]

/-- The attempt that resumes the upload once it was polled. -/
def gatedLast : Attempt (Store × Nat) Bytes Unit :=
  gatedAgain.arrive ((gatedAgain.place gated.world).record gatedHost .poll)

theorem starts_gated :
    (({} : Uploader).withPartSize 2).Starts 3 (.ofPair "bucket" "key")
      gatedTarget (.ofLength 3 2)
      (({} : Store).create (.ofPair "bucket" "key")).1 where
  configured := ⟨none, 2, rfl⟩
  accepted := rfl
  created := ⟨{}, _, Store.serve_of_check_eq_ok rfl, .refl⟩

theorem hands_gatedPause : gatedPause.world.history.Hands gatedToken := by
  have some :
      (gatedPause.world.history.any fun moment =>
        moment.event.checkpoint? = some gatedToken) = true := by
    decide +kernel
  rcases List.any_eq_true.mp some with ⟨moment, member, handed⟩
  exact ⟨moment, member, of_decide_eq_true handed⟩

theorem lists_gated :
    Uploader.Lists gatedToken gatedTarget gatedPause.world.world.1
      gatedPause.world.world.1 gatedListed := by
  have some : gatedListed ≠ [] := by
    decide +kernel
  refine .asked rfl .refl (Prod.ext rfl ?_)
  rw [gatedListed] at some ⊢
  generalize (gatedPause.world.world.1.serve (.list gatedTarget)).2 =
    conclusion at some ⊢
  cases conclusion with
  | ok listed => rfl
  | error failure => exact absurd rfl some
  | panicked panic => exact Empty.elim panic

theorem come_gated :
    Come Prod.fst 3 (.ofPair "bucket" "key") gatedTarget (.ofLength 3 2)
      gated := by
  have started :
      Come Prod.fst 3 (.ofPair "bucket" "key") gatedTarget (.ofLength 3 2)
        (begin gatedHost (({} : Uploader).withPartSize 2)
          gatedStart.world.world gatedTarget (.ofLength 3 2)
          [1, 2, 3]) :=
    .started (relays_gatedHost _) starts_gated [1, 2, 3]
  have polled := started.next (@Step.move _ _ _ _ _ _ _ [] [] _ .poll nofun)
  have paused :
      Come Prod.fst 3 (.ofPair "bucket" "key") gatedTarget (.ofLength 3 2)
        ⟨gatedPause.world.world, [gatedFirst]⟩ :=
    polled.next (@Step.move _ _ _ _ _ _ _ [] [] _ .pause nofun)
  have resumed :
      Come Prod.fst 3 (.ofPair "bucket" "key") gatedTarget (.ofLength 3 2)
        ⟨gatedPause.world.world, [gatedFirst] ++ [gatedAgain]⟩ :=
    paused.next
      (.resume {} [1, 2, 3] (.head _) hands_gatedPause
        (.inl (rfl : gatedToken = gatedToken)) (relays_gatedHost _) rfl
        lists_gated)
  refine resumed.next
    (@Step.move _ _ _ _ _ _ _ [] [gatedAgain] _
      (.change fun world => (world.1, 9)) ?_)
  rintro _ ⟨⟩
  exact .refl

/--
The checkpoint is good, the first part is listed, and the second attempt
sends the second part alone and stores the content.
-/
theorem resumed_gated :
    Uploader.resumePlan gatedToken 3 = .ok (.ofLength 3 2) ∧
      gatedListed.map (·.number) = [⟨1⟩] ∧
      requested gatedLast.history.events = [⟨2⟩] ∧
      (∀ {aim number body},
        .sent (.part aim number body) ∈ gatedLast.history.events →
          number ∉ gatedListed.map (·.number)) ∧
      ∃ tag,
        ((gatedAgain.place gated.world).poll gatedHost.recording).2 =
            .resolved (.ok { location := .ofPair "bucket" "key", tag }) ∧
          ((gatedAgain.place gated.world).poll
              gatedHost.recording).1.world.world.1.object?
              (.ofPair "bucket" "key") =
            some ⟨tag, [1, 2, 3]⟩ := by
  have faithful := resumed_exactly come_gated [1, 2, 3]
  have polled := resumed_exactly
    (come_gated.next
      (@Step.move _ _ _ _ _ _ _ [gatedFirst] [] gatedAgain .poll nofun))
    [1, 2, 3]
  have first : gatedFirst.history.Gives [1, 2, 3] := by
    have given : drawn gatedFirst.history.events = [1, 2, 3] := by
      decide +kernel
    exact ⟨given ▸ List.prefix_rfl, fun _ => given⟩
  have last : gatedLast.history.Gives [1, 2, 3] := by
    have given : drawn gatedLast.history.events = [1, 2, 3] := by
      decide +kernel
    exact ⟨given ▸ List.prefix_rfl, fun _ => given⟩
  have both :
      (moved gated.world [gatedFirst] gatedAgain [] .poll).Give
        [1, 2, 3] := by
    intro attempt member
    rcases List.mem_pair.mp member with rfl | rfl
    · exact first
    · exact last
  have give : gated.Give [1, 2, 3] := by
    intro attempt member
    rcases List.mem_pair.mp member with rfl | rfl
    · exact first
    · exact ⟨List.nil_prefix, nofun⟩
  have tells :
      ((gatedAgain.place gated.world).poll
        gatedHost.recording).2.object? =
        some
          { location := .ofPair "bucket" "key", tag := ⟨"etag-3"⟩ } := by
    decide +kernel
  have given :
      drawn ((gatedAgain.place gated.world).poll
        gatedHost.recording).1.world.history.events = [1, 2, 3] := by
    decide +kernel
  have resolved := Outcome.eq_of_object? tells
  have stored := faithful.stores give gatedAgain (.tail _ (.head _))
    (Prod.ext rfl resolved) ⟨given ▸ List.prefix_rfl, fun _ => given⟩
  exact ⟨(faithful.resumes gatedFirst (.head _) gatedToken
    hands_gatedPause).2, by decide +kernel, by decide +kernel,
    polled.skips both gatedLast (.tail _ (.head _)), _, resolved,
    stored.2⟩

end Attempts

end Multipart
