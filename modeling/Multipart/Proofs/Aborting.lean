import Multipart.Proofs.Aborting.Dying

/-!
# An upload is aborted once

When a request of an upload fails, or its source does, and the upload is not
paused, then it sends its abort at once and does nothing any more but wait
for it.  However the abort ends, the upload ends with the failure that it was
told of first.  The main statement is `aborted_once`.
-/

namespace Multipart

variable {World Content Phase : Type} {target : Target} {plan : Plan}
  {existing : PartTable Receipt} {host : Host World Content Phase}
  {capacity : Option Nat} {failure : Failure}
  {place later : Place (Recorded World) Content (Marked Phase)}

/-! ## Every run -/

namespace Going

/-- An upload that goes on may return from a poll. -/
theorem note (going : Going capacity place) {outcome : Outcome}
    (patient : place.upload.session.verdict = .running →
      place.upload.session.overfull? place.world.history.given ≠ none →
      outcome = .pending ∧
        ∃ limit, capacity = some limit ∧
          limit ≤ place.upload.session.inFlight) :
    Going capacity (place.note (.returned outcome)) where
  waits := going.waits
  judged := going.judged
  always := by
    refine History.always_concat going.always ⟨going.calm, rfl, ?_⟩
    rintro other same unhanded surplus
    obtain rfl := Event.returned.inj same
    refine patient ?_ surplus
    cases verdict : place.upload.session.verdict with
    | running => rfl
    | paused => exact absurd (going.parks.mpr verdict) unhanded
    | failed => exact absurd verdict going.judged
  parks := History.tells_parks.note going.parks rfl
  calm _ := History.report?_concat _ _

/-- An upload that goes on may be paused between two polls. -/
theorem pause (going : Going capacity place) :
    Going capacity (place.pause.note (.paused place.upload.pause.2.1)) := by
  have heard := Upload.heard_pause place.upload
  have eased :
      History.Eased capacity
        (place.world.history ++
          [⟨place.upload.pause.1.session,
            .paused place.upload.pause.2.1⟩]) :=
    going.eased.note rfl rfl
  exact
    { waits := heard.abort.trans going.waits
      judged := heard.judged going.judged
      always := eased.always
      parks := History.tells_parks.hears.paused going.parks
      calm := eased.calm }

end Going

/-- What is known of every recorded upload in the middle of a poll. -/
structure Fated (target : Target) (plan : Plan)
    (existing : PartTable Receipt) (capacity : Option Nat)
    (place : Place (Recorded World) Content (Marked Phase)) : Prop where
  regular : Regular target plan existing place
  limited : place.upload.capacity = capacity
  course : Going capacity place ∨
    (∃ failure, Due capacity failure place) ∨
      ∃ failure, Dying target capacity failure place

/-- What is known of every recorded upload between two polls. -/
structure Fated.Kept (target : Target) (plan : Plan)
    (existing : PartTable Receipt) (capacity : Option Nat)
    (place : Place (Recorded World) Content (Marked Phase)) : Prop where
  regular : Regular target plan existing place
  limited : place.upload.capacity = capacity
  /-- An upload that has resolved while it ran has come to its end. -/
  course :
    (Going capacity place ∧
        (place.upload.resolved = true →
          place.upload.session.verdict = .running →
          place.upload.session.sourceDone = true)) ∨
      ∃ failure, Dying target capacity failure place

namespace Fated

/-- A step without an outcome leads to the middle of a poll again. -/
theorem step (fated : Fated target plan existing capacity place)
    (unresolved : place.upload.resolved = false)
    (step : Step host.recording place later none) :
    Fated target plan existing capacity later := by
  refine ⟨fated.regular.step unresolved step,
    step.capacity.trans fated.limited, ?_⟩
  rcases fated.course with going | ⟨failure, due⟩ | ⟨failure, dying⟩
  · exact (going.step fated.regular unresolved step).imp id
      fun ⟨_, due⟩ => .inl due
  · obtain ⟨_, same, _⟩ :=
      Dying.of_due due fated.regular.sound.aimed step
    cases same
  · obtain ⟨_, same, _⟩ := dying.step fated.regular.sound unresolved step
    cases same

/-- A step with an outcome ends the poll. -/
theorem returns (fated : Fated target plan existing capacity place)
    (unresolved : place.upload.resolved = false) {outcome : Outcome}
    (step : Step host.recording place later (some outcome)) :
    Kept target plan existing capacity (later.note (.returned outcome)) := by
  have regular := fated.regular.step unresolved step
  refine ⟨regular.note rfl, step.capacity.trans fated.limited, ?_⟩
  rcases fated.course with going | ⟨failure, due⟩ | ⟨failure, dying⟩
  · have rests := going.rests fated.regular unresolved step
    rcases going.step fated.regular unresolved step with still | ⟨same, _⟩
    · refine .inl ⟨still.note fun running surplus => ?_,
        fun resolved running => ?_⟩
      · rcases rests running with done | ⟨_, ⟨pending, full⟩ | fits⟩
        · exact absurd (regular.overfull?_of_done done) surplus
        · rw [fated.limited] at full
          exact ⟨pending, full⟩
        · exact absurd fits surplus
      · rcases rests running with done | ⟨open', _⟩
        · exact done
        · cases open'.symm.trans resolved
    · cases same
  · obtain ⟨_, same, dies⟩ :=
      Dying.of_due due fated.regular.sound.aimed step
    obtain rfl := Option.some.inj same
    exact .inr ⟨failure, dies⟩
  · obtain ⟨_, same, dies⟩ :=
      dying.step fated.regular.sound unresolved step
    obtain rfl := Option.some.inj same
    exact .inr ⟨failure, dies⟩

theorem Kept.activate
    (kept : Kept target plan existing capacity place) :
    Fated target plan existing capacity place.activate := by
  refine ⟨kept.regular.activate, kept.limited, ?_⟩
  rcases kept.course with ⟨going, _⟩ | ⟨failure, dying⟩
  · exact .inl (going.become rfl rfl)
  · exact .inr (.inr ⟨failure, dying.judged, dying.awaits, dying.history⟩)

theorem Kept.again (kept : Kept target plan existing capacity place)
    (resolved : place.upload.resolved = true) :
    Kept target plan existing capacity
      (place.note (.returned (.faulted .alreadyResolved))) := by
  refine ⟨kept.regular.note rfl, kept.limited, ?_⟩
  rcases kept.course with ⟨going, done⟩ | ⟨failure, dying⟩
  · refine .inl ⟨going.note fun running surplus => ?_, done⟩
    exact absurd
      (kept.regular.overfull?_of_done (done resolved running)) surplus
  · exact .inr ⟨failure, dying.note rfl rfl⟩

theorem Kept.pause (kept : Kept target plan existing capacity place) :
    Kept target plan existing capacity
      (place.pause.note (.paused place.upload.pause.2.1)) := by
  have heard := Upload.heard_pause place.upload
  refine ⟨(kept.regular.heard heard).note rfl,
    heard.capacity.trans kept.limited, ?_⟩
  rcases kept.course with ⟨going, done⟩ | ⟨failure, dying⟩
  · refine .inl ⟨going.pause, fun resolved running => ?_⟩
    exact heard.sourceDone.trans
      (done (heard.resolved.symm.trans resolved) (heard.running running))
  · exact .inr ⟨failure, dying.pause⟩

/-- The fate of an upload is kept by every run. -/
theorem keeps (host : Host World Content Phase) :
    Keeps host (Kept target plan existing capacity)
      (Fated target plan existing capacity) where
  activate kept _ := kept.activate
  step fated unresolved step := fated.step unresolved step
  returns fated unresolved last := fated.returns unresolved last
  again kept resolved := kept.again resolved
  pause kept := kept.pause
  wake {place} number kept := by
    have heard := Upload.heard_signal place.upload (.wakePart number)
    have session := place.session_wake number
    refine ⟨kept.regular.heard heard, heard.capacity.trans kept.limited, ?_⟩
    rcases kept.course with ⟨going, done⟩ | ⟨failure, dying⟩
    · refine .inl ⟨going.become heard.abort (congrArg _ session), ?_⟩
      rw [session]
      exact fun resolved => done (heard.resolved.symm.trans resolved)
    · refine .inr ⟨failure, ?_, ?_, dying.history⟩
      · rw [session]
        exact dying.judged
      · intro marked begun
        obtain ⟨sent, kept⟩ :=
          dying.awaits marked (heard.abort.symm.trans begun)
        exact ⟨sent, heard.failure.trans kept⟩
  change change kept := by
    refine ⟨kept.regular.change _, kept.limited, ?_⟩
    rcases kept.course with ⟨going, done⟩ | ⟨failure, dying⟩
    · exact .inl ⟨⟨⟨going.waits, going.judged, going.always, going.parks⟩,
        going.calm⟩, done⟩
    · exact .inr ⟨failure, dying.judged, dying.awaits, dying.history⟩
  feed feed kept := by
    refine ⟨kept.regular.feed feed, kept.limited, ?_⟩
    rcases kept.course with ⟨going, done⟩ | ⟨failure, dying⟩
    · exact .inl ⟨going.become rfl rfl, done⟩
    · exact .inr ⟨failure, dying.judged, dying.awaits, dying.history⟩

end Fated

/-- An upload that has not been driven goes on, whatever it was given. -/
theorem Fated.kept_begin (world : World) (target : Target) (plan : Plan)
    (given : List Receipt) (limit : Option Nat) (content : Content) :
    Fated.Kept target plan
      (Progress.ofReceipts
        (given.filter fun receipt =>
          plan.contains receipt.number)).existing
      (Upload.limitOf limit)
      (Place.begin world (.ofPlan target plan given limit content) :
        Place (Recorded World) Content (Marked Phase)) where
  regular := Regular.begin world target plan given limit content
  limited := rfl
  course := .inl
    ⟨{ waits := rfl
       judged := nofun
       always := History.always_nil
       parks := History.parks_nil rfl
       calm := fun _ => rfl },
      nofun⟩

/-! ## The fate of an upload -/

/-- What happens when an upload sends its abort, before that and after it. -/
structure History.AbortedFor (target : Target) (failure : Failure)
    (before : History) (session : Session) (after : History) : Prop where
  /-- The upload is not paused. -/
  unhanded : ¬ before.Handed
  /-- The upload is told of the failure, -/
  cause : before.cause? session = some failure
  /-- and it was told of none before. -/
  first : ∀ front back, before = front ++ back →
    report? front ≠ none → back = []
  /-- No request is polled but the abort, and no pause is granted. -/
  only : ∀ moment ∈ after, moment.event.OnlyAborts target failure
  /-- Once the abort has finished, the upload resolves with the failure. -/
  ends : ∀ front moment back, after = front ++ moment :: back →
    moment.event.isAborted = true →
    ∃ session rest,
      back = ⟨session, .returned (.resolved (.error failure))⟩ :: rest

namespace History

variable {front back before after : History}

/-- Of two moments of a history one comes first, unless they are the same. -/
theorem split_cases {moment other : Moment}
    (same : before ++ moment :: after = front ++ other :: back) :
    (∃ between, front = before ++ moment :: between) ∨
      (before = front ∧ moment = other ∧ after = back) ∨
      ∃ between, before = front ++ other :: between ∧
        back = between ++ moment :: after := by
  rcases List.append_eq_append_iff.mp same with
    ⟨rest, split, rest_eq⟩ | ⟨rest, split, rest_eq⟩
  · cases rest with
    | nil =>
        obtain ⟨rfl, rfl⟩ := List.cons.inj rest_eq
        exact .inr (.inl ⟨by simpa using split.symm, rfl, rfl⟩)
    | cons first rest =>
        obtain ⟨rfl, _⟩ := List.cons.inj rest_eq
        exact .inl ⟨rest, split⟩
  · cases rest with
    | nil =>
        obtain ⟨rfl, rfl⟩ := List.cons.inj rest_eq
        exact .inr (.inl ⟨by simpa using split, rfl, rfl⟩)
    | cons first rest =>
        obtain ⟨rfl, rfl⟩ := List.cons.inj rest_eq
        exact .inr (.inr ⟨rest, split, rfl⟩)

/-- Up to its abort an upload is told of a failure by the last moment only. -/
theorem nil_of_report? (always : Always (Easy capacity) before)
    (unhanded : ¬ before.Handed) (split : before = front ++ back)
    (report : front.report? ≠ none) : back = [] := by
  subst split
  cases back with
  | nil => rfl
  | cons moment back =>
      refine absurd ((always front moment back rfl).calm ?_) report
      rintro ⟨other, member, handed⟩
      exact unhanded ⟨other, List.mem_append_left _ member, handed⟩

/-- What happens after the abort was sent tells of no failure. -/
theorem report?_of_onlyAborts (session : Session)
    (only : ∀ moment ∈ back, moment.event.OnlyAborts target failure) :
    report? (front ++ ⟨session, .sent (.abort target)⟩ :: back) = none := by
  rcases List.eq_nil_or_concat back with rfl | ⟨rest, last, rfl⟩
  · exact report?_concat _ _
  · have last_only := only last (by simp)
    rw [List.concat_eq_append, ← List.cons_append, ← List.append_assoc,
      report?_concat]
    obtain ⟨_, event⟩ := last
    cases event with
    | answered request answer =>
        obtain rfl := (show request = .abort target from last_only)
        rfl
    | drew => exact last_only.elim
    | ended => exact last_only.elim
    | _ => rfl

/-- The moments around an abort, wherever a history is split at it. -/
theorem Dwindles.abortedFor {session : Session}
    (always : Always (Easy capacity) front) (unhanded : ¬ front.Handed)
    (cause : front.cause? session = some failure)
    (dwindles : back.Dwindles target failure) :
    AbortedFor target failure front session back where
  unhanded := unhanded
  cause := cause
  first _ _ split report := nil_of_report? always unhanded split report
  only := dwindles.only
  ends first moment rest split aborted := by
    subst split
    have chain := (List.isChain_append.mp dwindles.ends).2.1
    cases rest with
    | nil =>
        have going := dwindles.rests moment (by simp)
        cases going.symm.trans aborted
    | cons next rest =>
        have final := (List.isChain_cons_cons.mp chain).1 aborted
        exact ⟨next.session, rest, by rw [← final]⟩

end History

/--
How a history has to do with aborts: an upload is aborted at most once, at
once when it is told of a failure, and for nothing else.
-/
structure History.OneShot (target : Target) (capacity : Option Nat)
    (history : History) : Prop where
  once : history.events.countP Event.aborts ≤ 1
  /-- An upload that is told of a failure and not paused is aborted next. -/
  prompt : ∀ before after : History, history = before ++ after →
    ¬ before.Handed → before.report? ≠ none →
    ∃ session rest, after = ⟨session, .sent (.abort target)⟩ :: rest
  /-- A poll leaves content that goes on too long only for want of room. -/
  patient : ∀ (before after : History) session outcome,
    history = before ++ ⟨session, .returned outcome⟩ :: after →
    ¬ before.Handed → before.events.countP Event.aborts = 0 →
    session.overfull? before.given ≠ none →
    outcome = .pending ∧
      ∃ limit, capacity = some limit ∧ limit ≤ session.inFlight
  /-- Nothing but a failure leads to an abort. -/
  sent : ∀ (before after : History) session aim,
    history = before ++ ⟨session, .sent (.abort aim)⟩ :: after →
    aim = target ∧
      ∃ failure, AbortedFor target failure before session after

namespace History

theorem unaborted_of_always {history : History}
    (always : Always (Easy capacity) history) :
    ∀ moment ∈ history, moment.event.aborts = false := by
  intro moment member
  rcases List.append_of_mem member with ⟨front, back, split⟩
  exact (always front moment back split).unaborted

theorem countP_aborts {history : History}
    (unaborted : ∀ moment ∈ history, moment.event.aborts = false) :
    history.events.countP Event.aborts = 0 := by
  rw [List.countP_eq_zero]
  intro event member aborts
  rcases List.mem_map.mp member with ⟨moment, listed, rfl⟩
  cases (unaborted moment listed).symm.trans aborts

/-- An upload that goes on has sent no abort, and had no need to. -/
theorem Eased.oneShot {history : History} (eased : history.Eased capacity) :
    history.OneShot target capacity where
  once := by
    rw [countP_aborts (unaborted_of_always eased.always)]
    exact Nat.zero_le 1
  prompt before after split unhanded report := by
    subst split
    cases after with
    | nil =>
        rw [List.append_nil] at eased
        exact absurd (eased.calm unhanded) report
    | cons moment after =>
        exact absurd
          ((eased.always before moment after rfl).calm unhanded) report
  patient before after session outcome split unhanded _ surplus :=
    (eased.always before _ after split).patient outcome rfl unhanded surplus
  sent before after session aim split := by
    cases (eased.always before _ after split).unaborted

/-- What an upload does that was aborted is not to abort it again. -/
theorem Dwindles.unaborted {history : History}
    (dwindles : history.Dwindles target failure) :
    ∀ moment ∈ history, moment.event.aborts = false := by
  rintro ⟨_, event⟩ member
  have only := dwindles.only _ member
  cases event with
  | sent => exact only.elim
  | _ => rfl

theorem Aborted.countP_aborts {history : History}
    (aborted : history.Aborted target capacity failure) :
    history.events.countP Event.aborts = 1 := by
  cases aborted with
  | intro always unhanded cause dwindles =>
      have early := History.countP_aborts (unaborted_of_always always)
      have late := History.countP_aborts dwindles.unaborted
      simp only [events] at early late ⊢
      rw [List.map_append, List.map_cons, List.countP_append,
        List.countP_cons, early, late]
      rfl

/-- An upload that was aborted was told of a failure before. -/
theorem Aborted.cause {history : History}
    (aborted : history.Aborted target capacity failure) :
    ∃ (before : History) (session : Session) (after : History),
      history = before ++ ⟨session, .sent (.abort target)⟩ :: after ∧
        before.cause? session = some failure := by
  cases aborted with
  | intro always unhanded cause dwindles => exact ⟨_, _, _, rfl, cause⟩

/-- An upload that was aborted had a failure, and was aborted once. -/
theorem Aborted.oneShot {history : History}
    (aborted : history.Aborted target capacity failure) :
    history.OneShot target capacity := by
  have once := aborted.countP_aborts
  cases aborted with
  | @intro front back session always unhanded cause dwindles =>
      refine ⟨once.le, ?_, ?_, ?_⟩
      · intro before after split unflagged report
        cases after with
        | nil =>
            rw [List.append_nil] at split
            rw [← split, report?_of_onlyAborts session dwindles.only] at report
            exact absurd rfl report
        | cons moment after =>
            rcases split_cases split.symm with
              ⟨between, rfl⟩ | ⟨_, rfl, _⟩ | ⟨between, rfl, rfl⟩
            · have calm := (always before moment between rfl).calm
              exact absurd (calm unflagged) report
            · exact ⟨session, after, rfl⟩
            · have early : ∀ other ∈ between,
                  other.event.OnlyAborts target failure :=
                fun other member =>
                  dwindles.only other (List.mem_append_left _ member)
              exact absurd (report?_of_onlyAborts session early) report
      · intro before after other outcome split unflagged none surplus
        rcases split_cases split.symm with
          ⟨between, rfl⟩ | ⟨_, same, _⟩ | ⟨between, rfl, rfl⟩
        · exact (always before _ between rfl).patient outcome rfl unflagged
            surplus
        · cases same
        · simp [events, Event.aborts] at none
      · intro before after other aim split
        rcases split_cases split.symm with
          ⟨between, rfl⟩ | ⟨rfl, same, rfl⟩ | ⟨between, rfl, rfl⟩
        · cases unaborted_of_always always ⟨other, .sent (.abort aim)⟩
            (by simp)
        · cases same
          exact ⟨rfl, failure,
            dwindles.abortedFor always unhanded cause⟩
        · cases dwindles.unaborted ⟨other, .sent (.abort aim)⟩ (by simp)

end History

/--
When a poll tells an upload of a failure and the upload is not paused, the
upload sends its abort next, and it sends no other.  From then on no request
of it is polled but the abort and every pause is refused; and when the abort
has finished, however that was, the upload resolves with the failure.  This
holds on any host and in every run.
-/
theorem aborted_once (host : Host World Content Phase) (world : World)
    (target : Target) (plan : Plan) (given : List Receipt)
    (limit : Option Nat) (content : Content)
    (moves : List (Move World Content)) :
    let history :=
      ((Place.begin world (.ofPlan target plan given limit content)).replay
        host moves).world.history
    history.OneShot target (Upload.limitOf limit) := by
  intro history
  have kept := (Fated.keeps host).replay
    (Fated.kept_begin world target plan given limit content) moves
  rcases kept.course with ⟨going, _⟩ | ⟨failure, dying⟩
  · exact going.eased.oneShot
  · exact dying.history.oneShot

/-- A host on which every part fails in its own way, and the abort does. -/
def Host.stormy : Host Unit Bytes Unit where
  unsent _ := ()
  poll _ _ request _ :=
    { world := ()
      outcome :=
        match request with
        | .part target number _ =>
          .finished (.error (.uploadPart target.id number "storm"))
        | .abort target => .finished (.error (.abort target.id "storm"))
        | _ => .waiting () }
  size := List.length
  pull _ _ content := { world := (), outcome := .bytewise content }

/-- Two polls of an upload in three parts on that host. -/
def Host.stormyHistory : History :=
  ((Place.begin ()
      (.ofPlan ⟨⟨"upload-1"⟩, .ofPair "bucket" "key"⟩ (.ofLength 3 1) [] none
        [1, 2, 3])).replay stormy [.poll, .poll]).world.history

/-- On that host the upload is aborted for its first part, and once. -/
theorem aborted_stormy :
    Host.stormyHistory.events.countP Event.aborts = 1 ∧
      Host.stormyHistory.any (fun moment =>
        match moment.event with
        | .returned (.resolved (.error failure)) =>
          failure = .uploadPart ⟨"upload-1"⟩ ⟨1⟩ "storm"
        | _ => false) = true ∧
      Host.stormyHistory.OneShot ⟨⟨"upload-1"⟩, .ofPair "bucket" "key"⟩
        none :=
  ⟨by decide +kernel, by decide +kernel,
    aborted_once Host.stormy () _ (.ofLength 3 1) [] none [1, 2, 3]
      [.poll, .poll]⟩

end Multipart
