import Multipart.Proofs.Listing

/-!
# What an upload on the service starts from

Before an upload is driven, a client asks the service for it: for its id if
it is new, or for the parts that it has if it was paused.  The log of this
tells which upload it is and what is known of its parts, and it names no
other upload.  The main statements are `Service.target_of_begin` and
`Service.opens_of_begin`.
-/

namespace Multipart

/-- The upload that the log of a client tells of, or a checkpoint. -/
inductive Names (log : List Passage) (location : Location) :
    Option Checkpoint → Target → Prop where
  /-- The upload is new, and its id was replied. -/
  | started {id : String}
      (replied :
        ⟨.create location, some (.ok (.created (some id)))⟩ ∈ log) :
      Names log location none ⟨⟨id⟩, location⟩
  /-- The upload was paused, and its id was written down. -/
  | resumed (checkpoint : Checkpoint) :
      Names log location (some checkpoint) ⟨checkpoint.id, location⟩

/-- What the log of a client tells of the upload that it leads to. -/
structure Service.Opens (client : Service) (location : Location)
    (token? : Option Checkpoint) (opening : Opening) : Prop where
  names : Names client.log location token? opening.target
  entries : client.listed.map ListedPart.receipt =
    opening.existing.map .ok

namespace Service

/-- A request is served by itself, unless it is a listing. -/
theorem serve_eq (service : Service) {request : Request}
    {wire : WireRequest} (prepared : request.prepare = .ok wire) :
    service.serve request = service.ask wire request := by
  rw [serve, prepared]

theorem serve_error (service : Service) {request : Request}
    {failure : Failure} (refused : request.prepare = .error failure) :
    service.serve request = (service, .error failure) := by
  rw [serve, refused]

/-- A listing is served page by page, or not at all. -/
theorem fetches_serve (service : Service) (target : Target) :
    let served := service.serve (.list target)
    ∃ log, served.1.log = service.log ++ log ∧
      (∀ passage ∈ log, ∃ marker, passage.wire = .list target marker) ∧
      ∀ receipts : List Receipt, served.2 = .ok receipts →
        (ListedPart.sorted (log.flatMap Passage.listed)).map
            ListedPart.receipt =
          receipts.map .ok := by
  cases prepared : (Request.list target).prepare with
  | error failure =>
      rw [service.serve_error prepared]
      exact ⟨[], by simp⟩
  | ok wire =>
      rw [service.serve_eq prepared]
      obtain ⟨log, answer, fetches, logged, answered⟩ :=
        service.fetches_list target
      refine ⟨log, logged, fun _ member => fetches.wire member, ?_⟩
      intro receipts served
      cases answer with
      | error failure => cases answered.symm.trans served
      | ok gathered =>
          obtain rfl := Except.ok.inj (answered.symm.trans served)
          exact ListedPart.map_receipt_sorted (fetches.gathers rfl)

/-- A new upload is asked for once, or not at all. -/
theorem serve_create (service : Service) (location : Location) :
    let served := service.serve (.create location)
    ∃ log, served.1.log = service.log ++ log ∧
      (∀ passage ∈ log, passage.wire = .create location) ∧
      ∀ target : Target, served.2 = .ok target →
        ∃ id, log = [⟨.create location, some (.ok (.created (some id)))⟩] ∧
          target = ⟨⟨id⟩, location⟩ := by
  cases prepared : (Request.create location).prepare with
  | error failure =>
      rw [service.serve_error prepared]
      exact ⟨[], by simp⟩
  | ok wire =>
      rw [service.serve_eq prepared]
      cases Request.spells_of_prepare prepared
      refine ⟨_, log_of_send rfl, ?_, ?_⟩
      · intro passage member
        rw [List.mem_singleton.mp member]
      · intro target received
        obtain ⟨id, arrived, named⟩ :=
          Request.receive_create_eq_ok.mp received
        exact ⟨id, by rw [arrived], named⟩

/-- What is noted makes no difference to what was sent. -/
@[simp]
theorem log_note (service : Service) (entries : List Journal.Entry) :
    (service.note entries).log = service.log :=
  rfl

@[simp]
theorem listed_note (service : Service) (entries : List Journal.Entry) :
    (service.note entries).listed = service.listed :=
  rfl

section Begin

variable (replies : List Arrival) (uploader : Uploader)
  (location : Location) (length : UInt64)

/-- An upload that is started goes by the id that was replied. -/
theorem opens_of_create :
    let begun := ({ replies } : Service).create uploader location length
    (∀ passage ∈ begun.1.log, passage.wire = .create location) ∧
      ∀ opening, begun.2 = .ok opening →
        begun.1.Opens location none opening := by
  rw [create]
  cases uploader.startPlan length with
  | error failure => simp
  | ok plan =>
      obtain ⟨log, logged, wires, received⟩ :=
        ({ replies } : Service).serve_create location
      generalize ({ replies } : Service).serve (.create location) = served
        at logged received
      obtain ⟨client, answer⟩ := served
      replace logged : client.log = log := logged
      subst logged
      cases answer with
      | error failure => exact ⟨wires, by simp⟩
      | ok target =>
          refine ⟨wires, fun opening begun => ?_⟩
          obtain rfl := Except.ok.inj begun
          obtain ⟨id, replied, rfl⟩ := received target rfl
          constructor
          · apply Names.started
            rw [log_note, replied]
            exact List.mem_singleton_self _
          · rw [listed_note, listed, replied]
            simp [Passage.listed, ListedPart.sorted]

/-- An upload that is resumed goes by the id that was written down. -/
theorem opens_of_reopen (checkpoint : Checkpoint) :
    let begun :=
      ({ replies } : Service).reopen checkpoint location length
    (∀ passage ∈ begun.1.log, ∃ marker,
        passage.wire = .list ⟨checkpoint.id, location⟩ marker) ∧
      ∀ opening, begun.2 = .ok opening →
        begun.1.Opens location (some checkpoint) opening := by
  rw [reopen]
  cases Uploader.resumePlan checkpoint length with
  | error failure => simp
  | ok plan =>
      dsimp only
      by_cases wanted : (Uploader.listing? checkpoint
        ⟨checkpoint.id, location⟩).isSome = true
      · rw [if_pos wanted]
        obtain ⟨log, logged, wires, received⟩ :=
          ({ replies } : Service).fetches_serve ⟨checkpoint.id, location⟩
        generalize ({ replies } : Service).serve
          (.list ⟨checkpoint.id, location⟩) = served at logged received
        obtain ⟨client, answer⟩ := served
        replace logged : client.log = log := logged
        subst logged
        cases answer with
        | error failure => exact ⟨wires, by simp⟩
        | ok receipts =>
            refine ⟨wires, fun opening begun => ?_⟩
            obtain rfl := Except.ok.inj begun
            exact ⟨.resumed checkpoint, received receipts rfl⟩
      · rw [if_neg wanted]
        refine ⟨by simp, fun opening begun => ?_⟩
        obtain rfl := Except.ok.inj begun
        refine ⟨.resumed checkpoint, ?_⟩
        rw [listed_note, listed]
        simp [ListedPart.sorted]

/-- However an upload begins, the log tells which it is and what it has. -/
theorem opens_of_begin (token? : Option Checkpoint) {client : Service}
    {opening : Opening}
    (begun : ({ replies } : Service).begin uploader token? location length =
      (client, .ok opening)) :
    client.Opens location token? opening := by
  cases token? with
  | none =>
      have opens := (opens_of_create replies uploader location length).2
      rw [show Service.create _ _ _ _ = _ from begun] at opens
      exact opens opening rfl
  | some checkpoint =>
      have opens := (opens_of_reopen replies location length checkpoint).2
      rw [show Service.reopen _ _ _ _ = _ from begun] at opens
      exact opens opening rfl

/-- What is sent before an upload begins names no upload but this. -/
theorem target_of_begin (token? : Option Checkpoint) {passage : Passage}
    (member : passage ∈
      (({ replies } : Service).begin uploader token? location
        length).1.log)
    {aim : Target} (aimed : passage.wire.target? = some aim) :
    ∃ checkpoint, token? = some checkpoint ∧
      aim = ⟨checkpoint.id, location⟩ := by
  cases token? with
  | none =>
      have wires := (opens_of_create replies uploader location length).1
      rw [wires passage member] at aimed
      cases aimed
  | some checkpoint =>
      have wires := (opens_of_reopen replies location length checkpoint).1
      obtain ⟨marker, wire⟩ := wires passage member
      rw [wire] at aimed
      exact ⟨checkpoint, rfl, (Option.some.inj aimed).symm⟩

end Begin

end Service

end Multipart
