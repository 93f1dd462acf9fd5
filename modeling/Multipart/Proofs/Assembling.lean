import Mathlib.Data.List.Induction
import Multipart.Proofs.Isolating

/-!
# Which completions are accepted

A completion is accepted exactly when it names an upload in progress and lists
parts of it in ascending order, each under the tag that it has now, and when
there is memory for as many bytes as it says that they have.  Then the parts
become the object that the upload was created for.  So a listing of all parts
is good for a completion if there is memory for them.  But no tag is given
twice, and the tag of a part that was taken again is good for nothing from
then on.  The main statement is `accepted_exactly`.

A store looks at the sizes that are listed before it looks at any part.  So a
completion may break it off whose parts are all as they should be, and also
one that it ought to refuse.
-/

namespace Multipart

/-! ## Requests that pass their checks -/

/-- Holds of a target in which no name is missing. -/
structure Target.IsNamed (target : Target) : Prop where
  id : target.id.text ≠ ""
  bucket : target.location.bucket.text ≠ ""
  key : target.location.key.text ≠ ""

namespace Request

variable {target : Target}

theorem checkTarget_eq_ok {operation : Operation} :
    checkTarget operation target = .ok () ↔ target.IsNamed := by
  rw [checkTarget, Location.isEmpty]
  split
  · rename_i missing
    simp only [Bool.or_eq_true, String.isEmpty_iff] at missing
    constructor
    · intro passes
      cases passes
    · intro named
      rcases missing with id | bucket | key
      · exact absurd id named.id
      · exact absurd bucket named.bucket
      · exact absurd key named.key
  · rename_i present
    simp only [Bool.or_eq_true, String.isEmpty_iff, not_or] at present
    exact iff_of_true rfl ⟨present.1, present.2.1, present.2.2⟩

theorem check_list : (list target).check = .ok () ↔ target.IsNamed :=
  checkTarget_eq_ok

theorem check_complete {receipts : List Receipt} :
    (complete target receipts).check = .ok () ↔
      target.IsNamed ∧ receipts ≠ [] := by
  rw [check]
  cases checked : checkTarget .complete target with
  | error failure =>
      constructor
      · intro passes
        cases passes
      · rintro ⟨named, -⟩
        cases checked.symm.trans (checkTarget_eq_ok.mpr named)
  | ok =>
      have named := checkTarget_eq_ok.mp checked
      cases receipts with
      | nil =>
          constructor
          · intro passes
            cases passes
          · rintro ⟨-, nonempty⟩
            exact absurd rfl nonempty
      | cons => exact iff_of_true rfl ⟨named, List.cons_ne_nil _ _⟩

end Request

/-- Holds when every number is larger than all before it. -/
def Receipt.Ascend (receipts : List Receipt) : Prop :=
  (receipts.map (·.number.toNat)).Pairwise (· < ·)

/-- How many bytes the listed parts are said to have. -/
def Receipt.sizes : List Receipt → Nat
  | [] => 0
  | receipt :: receipts => receipt.size.toNat + sizes receipts

/-- Sizes are added up as long as a word can tell their sum. -/
theorem Receipt.totalSize_eq (receipts : List Receipt) :
    totalSize receipts = Word.ofNat .addition (sizes receipts) := by
  have added (start : UInt64) :
      receipts.foldlM
          (fun total receipt => Word.add total receipt.size.toNat) start =
        Word.ofNat .addition (start.toNat + sizes receipts) := by
    induction receipts generalizing start with
    | nil => exact (Word.add_zero start).symm
    | cons receipt receipts ih =>
        rw [List.foldlM_cons, sizes, ← Nat.add_assoc]
        cases added : Word.add start receipt.size.toNat with
        | ok sum =>
            rw [← Word.add_eq_ok.mp added]
            exact ih sum
        | error panic =>
            obtain ⟨rfl, large⟩ := Word.add_eq_error.mp added
            exact (Word.ofNat_eq_error.mpr
              ⟨rfl, Nat.le_add_right_of_le large⟩).symm
  rw [totalSize, added]
  exact congrArg (Word.ofNat .addition) (Nat.zero_add _)

/-- Parts have as many bytes together as they are said to have at least. -/
theorem Receipt.sizes_le_length {receipts : List Receipt}
    {body : Receipt → Bytes}
    (each : ∀ receipt ∈ receipts,
      receipt.size.toNat ≤ (body receipt).length) :
    sizes receipts ≤ (receipts.flatMap body).length := by
  induction receipts with
  | nil => exact Nat.le_refl 0
  | cons receipt receipts ih =>
      rw [List.flatMap_cons, List.length_append]
      exact Nat.add_le_add (each receipt List.mem_cons_self)
        (ih fun later member => each later (List.mem_cons_of_mem _ member))

namespace Store

variable {store : Store} {target : Target} {receipts : List Receipt}

/-! ## Memory -/

/-- Why there is no memory for so many bytes. -/
def shortage (bytes : Nat) : Panic :=
  if bytes < UInt64.size then .capacity else .addition

theorem reserve_eq (receipts : List Receipt) :
    reserve receipts =
      if Receipt.sizes receipts ≤ maxCapacity then .ok ()
      else .error (shortage (Receipt.sizes receipts)) := by
  rw [reserve, Receipt.totalSize_eq, Word.ofNat, shortage]
  generalize Receipt.sizes receipts = bytes
  by_cases word : bytes < UInt64.size
  · rw [if_pos word, if_pos word]
    dsimp only
    rw [UInt64.toNat_ofNat_of_lt' word]
  · have exceeds : ¬ bytes ≤ maxCapacity := by
      have below : maxCapacity < UInt64.size := by decide
      omega
    rw [if_neg word, if_neg word, if_neg exceeds]

theorem reserve_eq_ok :
    reserve receipts = .ok () ↔ Receipt.sizes receipts ≤ maxCapacity := by
  rw [reserve_eq]
  split
  · rename_i fits
    exact iff_of_true rfl fits
  · rename_i exceeds
    exact iff_of_false nofun exceeds

theorem reserve_eq_error {panic : Panic} :
    reserve receipts = .error panic ↔
      maxCapacity < Receipt.sizes receipts ∧
        panic = shortage (Receipt.sizes receipts) := by
  rw [reserve_eq]
  split
  · rename_i fits
    exact iff_of_false nofun fun exceeds =>
      Nat.not_lt.mpr fits exceeds.1
  · rename_i exceeds
    rw [Except.error.injEq, eq_comm]
    exact (and_iff_right (Nat.lt_of_not_le exceeds)).symm

/-! ## Completions -/

theorem isAscending_iff : isAscending receipts = true ↔
    Receipt.Ascend receipts := by
  rw [Receipt.Ascend, ← List.isChain_iff_pairwise]
  induction receipts using isAscending.induct with
  | case1 first second receipts ih =>
      rw [isAscending, Bool.and_eq_true, decide_eq_true_eq, ih]
      exact (and_congr_left' UInt32.lt_iff_toNat_lt).trans
        List.isChain_cons_cons.symm
  | case2 receipts few =>
      match receipts with
      | [] => exact iff_of_true rfl .nil
      | [_] => exact iff_of_true rfl (.singleton _)
      | first :: second :: receipts =>
          exact absurd rfl (few first second receipts)

/-- What a completion has to be like for its sizes to be looked at. -/
structure Considers (store : Store) (target : Target)
    (receipts : List Receipt) : Prop where
  named : target.IsNamed
  active : store.upload? target.id ≠ none
  nonempty : receipts ≠ []
  ascending : Receipt.Ascend receipts

/-- What a completion has to be like for its parts to be accepted. -/
structure Accepts (store : Store) (target : Target)
    (receipts : List Receipt) : Prop
    extends Considers store target receipts where
  /-- Each part is held, under the tag that it is listed by. -/
  held : ∀ receipt ∈ receipts, ∃ part,
    store.part? target.id receipt.number = some part ∧
      part.tag = receipt.tag

/-- The bytes that are held for an upload under the listed numbers. -/
def bodies (store : Store) (id : UploadId) (receipts : List Receipt) :
    Bytes :=
  receipts.flatMap fun receipt =>
    ((store.part? id receipt.number).map (·.body)).getD []

/-- A completion that is considered asks for memory first. -/
theorem Considers.serve (considers : store.Considers target receipts)
    {upload : ActiveUpload}
    (found : store.upload? target.id = some upload) :
    store.serve (.complete target receipts) =
      match reserve receipts with
      | .error panic => (store, .panicked panic)
      | .ok () =>
        match joinBodies upload.parts receipts with
        | .error failure => (store, .error failure)
        | .ok body =>
          (({ store with tagsGiven := store.tagsGiven + 1 }.removeUpload
              target.id).putObject upload.location ⟨store.nextTag, body⟩,
            .ok ({ location := upload.location, tag := store.nextTag } :
              Completion)) := by
  have passes :=
    Request.check_complete.mpr ⟨considers.named, considers.nonempty⟩
  rw [serve_of_check_eq_ok passes]
  dsimp only [complete]
  rw [found]
  exact if_pos (isAscending_iff.mpr considers.ascending)

/-- What an accepted completion leaves, and its answer. -/
theorem Accepts.serve (accepts : store.Accepts target receipts)
    (reserves : reserve receipts = .ok ()) {upload : ActiveUpload}
    (found : store.upload? target.id = some upload) :
    store.serve (.complete target receipts) =
      (({ store with tagsGiven := store.tagsGiven + 1 }.removeUpload
          target.id).putObject upload.location
          ⟨store.nextTag, store.bodies target.id receipts⟩,
        .ok ({ location := upload.location, tag := store.nextTag } :
          Completion)) := by
  have joined : joinBodies upload.parts receipts =
      .ok (store.bodies target.id receipts) := by
    apply joinBodies_eq_ok_iff.mpr
    constructor
    · intro receipt member
      rw [← part?_of_upload? found]
      exact accepts.held receipt member
    · simp only [bodies, part?_of_upload? found]
      rfl
  rw [accepts.toConsiders.serve found, reserves, joined]

/-- A completion that does not fail was one to be considered. -/
theorem considers_of_serve
    (unfailing : ∀ failure,
      (store.serve (.complete target receipts)).2 ≠ .error failure) :
    store.Considers target receipts := by
  cases checked : (Request.complete target receipts).check with
  | error failure =>
      rw [serve_of_check_eq_error checked] at unfailing
      exact absurd rfl (unfailing failure)
  | ok =>
      obtain ⟨named, nonempty⟩ := Request.check_complete.mp checked
      rw [serve_of_check_eq_ok checked] at unfailing
      dsimp only [complete] at unfailing
      split at unfailing
      · exact absurd rfl (unfailing _)
      · rename_i upload found
        split at unfailing
        · rename_i ascending
          refine ⟨named, ?_, nonempty, isAscending_iff.mp ascending⟩
          rw [found]
          exact Option.some_ne_none upload
        · exact absurd rfl (unfailing _)

/-- A completion that is answered was one to be accepted. -/
theorem accepts_of_serve {completion : Completion}
    (served :
      (store.serve (.complete target receipts)).2 = .ok completion) :
    store.Accepts target receipts ∧ reserve receipts = .ok () := by
  have considers : store.Considers target receipts :=
    considers_of_serve fun failure failed => by
      cases served.symm.trans failed
  obtain ⟨upload, found⟩ := Option.ne_none_iff_exists'.mp considers.active
  rw [considers.serve found] at served
  split at served
  · cases served
  · rename_i reserves
    split at served
    · cases served
    · rename_i body joined
      obtain ⟨held, -⟩ := joinBodies_eq_ok_iff.mp joined
      refine ⟨⟨considers, fun receipt member => ?_⟩, reserves⟩
      rw [part?_of_upload? found]
      exact held receipt member

theorem accepts_iff :
    (∃ completion : Completion,
      (store.serve (.complete target receipts)).2 = .ok completion) ↔
        store.Accepts target receipts ∧
          Receipt.sizes receipts ≤ maxCapacity := by
  rw [← reserve_eq_ok]
  constructor
  · rintro ⟨completion, served⟩
    exact accepts_of_serve served
  · rintro ⟨accepts, reserves⟩
    obtain ⟨upload, found⟩ := Option.ne_none_iff_exists'.mp accepts.active
    rw [accepts.serve reserves found]
    exact ⟨_, rfl⟩

/-- A completion breaks off for want of memory, whatever parts it lists. -/
theorem breaks_iff {panic : Panic} :
    store.serve (.complete target receipts) =
        (store, .panicked panic) ↔
      store.Considers target receipts ∧
        maxCapacity < Receipt.sizes receipts ∧
        panic = shortage (Receipt.sizes receipts) := by
  rw [← reserve_eq_error]
  constructor
  · intro served
    have considers : store.Considers target receipts :=
      considers_of_serve fun failure failed => by
        rw [served] at failed
        cases failed
    obtain ⟨upload, found⟩ :=
      Option.ne_none_iff_exists'.mp considers.active
    rw [considers.serve found] at served
    refine ⟨considers, ?_⟩
    split at served
    · rename_i reserves
      cases congrArg Prod.snd served
      exact reserves
    · split at served <;> cases congrArg Prod.snd served
  · rintro ⟨considers, reserves⟩
    obtain ⟨upload, found⟩ :=
      Option.ne_none_iff_exists'.mp considers.active
    rw [considers.serve found, reserves]

/-! ## Listings -/

/-- What the parts that are held for an upload are listed as. -/
structure ListsParts (store : Store) (id : UploadId)
    (listed : List Receipt) : Prop where
  ascending : Receipt.Ascend listed
  /-- Each part that is held is listed, and nothing else. -/
  whole : ∀ receipt, receipt ∈ listed ↔
    ∃ part, store.part? id receipt.number = some part ∧
      receipt =
        { number := receipt.number, tag := part.tag,
          size := UInt64.ofNat part.body.length }

/-- A listing of an upload in progress tells all of its parts. -/
theorem listsParts_of_upload? (named : target.IsNamed)
    (active : store.upload? target.id ≠ none) :
    ∃ listed : List Receipt,
      store.serve (.list target) = (store, .ok listed) ∧
        store.ListsParts target.id listed := by
  obtain ⟨upload, found⟩ := Option.ne_none_iff_exists'.mp active
  rw [serve_of_check_eq_ok (Request.check_list.mpr named)]
  dsimp only [list]
  rw [found]
  refine ⟨_, rfl, ?_, ?_⟩
  · rw [Receipt.Ascend, List.map_map]
    have ordered := upload.parts.pairwise_numbers
    rw [PartTable.numbers, List.pairwise_map] at ordered
    exact List.pairwise_map.mpr
      (ordered.imp fun below => UInt32.lt_iff_toNat_lt.mp below)
  · intro receipt
    rw [part?_of_upload? found, List.mem_map]
    constructor
    · rintro ⟨⟨number, part⟩, member, rfl⟩
      exact ⟨part, PartTable.find?_of_mem_toList member, rfl⟩
    · rintro ⟨part, held, told⟩
      exact ⟨_, PartTable.mem_toList_of_find? held, told.symm⟩

/-- What was listed may be completed with. -/
theorem ListsParts.accepts {listed : List Receipt}
    (lists : store.ListsParts target.id listed) (named : target.IsNamed)
    (active : store.upload? target.id ≠ none) (nonempty : listed ≠ []) :
    store.Accepts target listed where
  named := named
  active := active
  nonempty := nonempty
  ascending := lists.ascending
  held := by
    intro receipt member
    obtain ⟨part, held, told⟩ := (lists.whole receipt).mp member
    rw [told]
    exact ⟨part, held, rfl⟩

/-- A part is not said to have more bytes than it has. -/
theorem ListsParts.sizes_le {listed : List Receipt}
    (lists : store.ListsParts target.id listed) :
    Receipt.sizes listed ≤ (store.bodies target.id listed).length := by
  refine Receipt.sizes_le_length fun receipt member => ?_
  obtain ⟨part, held, told⟩ := (lists.whole receipt).mp member
  rw [held, told]
  exact Nat.mod_le _ _

/-! ## Tags are not given twice -/

/-- Holds of a tag that the store has given. -/
def HasGivenTag (store : Store) (tag : EntityTag) : Prop :=
  ∃ number, number ≤ store.tagsGiven ∧ tag = store.tagOf number

variable {tag : EntityTag}

theorem HasGivenTag.ne_nextTag (given : store.HasGivenTag tag) :
    tag ≠ store.nextTag := by
  rcases given with ⟨number, below, rfl⟩
  intro same
  have equal := store.names.tag_injective same
  omega

theorem HasGivenTag.serve (given : store.HasGivenTag tag)
    (request : Request) : (store.serve request).1.HasGivenTag tag := by
  rcases given with ⟨number, below, rfl⟩
  rcases store.names_serve request with ⟨names, -, more⟩
  exact ⟨number, Nat.le_trans below more, by rw [tagOf, tagOf, names]⟩

/-- A request that gives a tag gives the next one. -/
theorem hasGivenTag_nextTag {request : Request}
    (gives : store.tagsGiven < (store.serve request).1.tagsGiven) :
    (store.serve request).1.HasGivenTag store.nextTag := by
  refine ⟨store.tagsGiven + 1, gives, ?_⟩
  rw [nextTag, tagOf, tagOf, (store.names_serve request).1]

/-- Holds when every part that is held has a tag that was given. -/
def IsTagged (store : Store) : Prop :=
  ∀ ⦃id number part⦄, store.part? id number = some part →
    store.HasGivenTag part.tag

theorem isTagged_empty (names : NameSupply) : IsTagged { names } :=
  fun _ _ _ found => by cases found

theorem IsTagged.serve (tagged : store.IsTagged) (request : Request) :
    (store.serve request).1.IsTagged := by
  intro id number part found
  rcases part?_serve found with old | ⟨_, _, _, _, _, rfl, gives⟩
  · exact (tagged old).serve request
  · exact hasGivenTag_nextTag gives

theorem isTagged_serveAll (names : NameSupply) (history : List Request) :
    (serveAll { names } history).IsTagged :=
  serveAll_keeps IsTagged (fun request _ _ tagged => tagged.serve request)
    (isTagged_empty names)

/-- Holds of a tag that was given and is held in no places but some. -/
structure Confines (store : Store) (tag : EntityTag)
    (places : UploadId → PartNumber → Prop) : Prop where
  given : store.HasGivenTag tag
  within : ∀ {id number part}, store.part? id number = some part →
    part.tag = tag → places id number

variable {places : UploadId → PartNumber → Prop}

theorem Confines.serve (confines : store.Confines tag places)
    (request : Request) :
    (store.serve request).1.Confines tag places where
  given := confines.given.serve request
  within := by
    intro id number part found same
    rcases part?_serve found with old | ⟨_, _, _, _, _, rfl, _⟩
    · exact confines.within old same
    · exact absurd same.symm confines.given.ne_nextTag

variable {number : PartNumber} {body : Bytes} {receipt : Receipt}

/-- A part that is taken is held under the tag of its receipt. -/
theorem part?_of_takes
    (taken : (store.serve (.part target number body)).2 = .ok receipt) :
    (store.serve (.part target number body)).1.part? target.id number =
        some ⟨store.nextTag, body⟩ ∧
      receipt.tag = store.nextTag ∧
      store.tagsGiven <
        (store.serve (.part target number body)).1.tagsGiven := by
  have served := store.served_serve (.part target number body)
  generalize (store.serve (.part target number body)).1 = after at *
  rw [taken] at served
  cases served with
  | taken =>
      rw [part?_putUpload, if_pos rfl, PartTable.find?_insert, if_pos rfl]
      exact ⟨rfl, rfl, Nat.lt_succ_self _⟩

/-- The tag of a new part is held in no other place. -/
theorem IsTagged.confines (tagged : store.IsTagged)
    (taken : (store.serve (.part target number body)).2 = .ok receipt) :
    (store.serve (.part target number body)).1.Confines receipt.tag
      fun id other => id = target.id ∧ other = number := by
  obtain ⟨_, new, gives⟩ := part?_of_takes taken
  rw [new]
  refine ⟨hasGivenTag_nextTag gives, ?_⟩
  intro id other part found same
  rcases part?_serve found with old | ⟨_, _, asked, _, rfl, _, _⟩
  · exact absurd same (tagged old).ne_nextTag
  · cases asked
    exact ⟨rfl, rfl⟩

/-- When a part is taken again, the tag that it had is held nowhere. -/
theorem Confines.takes
    (confines : store.Confines tag fun id other =>
      id = target.id ∧ other = number)
    (taken : (store.serve (.part target number body)).2 = .ok receipt) :
    (store.serve (.part target number body)).1.Confines tag
      fun _ _ => False := by
  -- The one place that may still have the tag has a new part by now.
  obtain ⟨held, -, -⟩ := part?_of_takes taken
  have still := confines.serve (.part target number body)
  refine ⟨still.given, ?_⟩
  intro id other part found same
  obtain ⟨rfl, rfl⟩ := still.within found same
  obtain rfl := Option.some.inj (found.symm.trans held)
  exact confines.given.ne_nextTag same.symm

/-- The object that is made has the next tag. -/
theorem tag_of_completes {completion : Completion}
    (completed :
      (store.serve (.complete target receipts)).2 = .ok completion) :
    completion.tag = store.nextTag ∧
      store.tagsGiven <
        (store.serve (.complete target receipts)).1.tagsGiven := by
  have served := store.served_serve (.complete target receipts)
  generalize (store.serve (.complete target receipts)).1 = after at *
  rw [completed] at served
  cases served with
  | completed => exact ⟨rfl, Nat.lt_succ_self _⟩

/-! ## What a history tells -/

/-- Holds when a history has a request, after others, that was answered. -/
structure Answered (names : NameSupply) (history before : List Request)
    (request : Request) (answer : request.Answer) : Prop where
  asked : before ++ [request] <+: history
  answers : ((serveAll { names } before).serve request).2 = .ok answer

variable {names : NameSupply} {history before : List Request}

/-- What an answered request brings about lasts if each request keeps it. -/
theorem Answered.lasts {request : Request} {answer : request.Answer}
    (answered : Answered names history before request answer)
    (holds : Store → Prop)
    (keeps : ∀ store request, holds store → holds (store.serve request).1)
    (begins : holds ((serveAll { names } before).serve request).1) :
    holds (serveAll { names } history) := by
  obtain ⟨later, rfl⟩ := answered.asked
  rw [serveAll_append, serveAll_concat]
  exact serveAll_keeps holds (fun request _ store => keeps store request)
    begins

/-- Holds when a history has the creation of an upload for its location. -/
def Created (names : NameSupply) (history : List Request)
    (target : Target) : Prop :=
  ∃ before, Answered names history before (.create target.location) target

theorem Created.append (created : Created names history target)
    (later : List Request) : Created names (history ++ later) target := by
  obtain ⟨before, asked, answers⟩ := created
  exact ⟨before, asked.trans (List.prefix_append _ _), answers⟩

/-- An upload in progress was created for its location. -/
theorem created_of_upload? {id : UploadId} {upload : ActiveUpload}
    (found : (serveAll { names } history).upload? id = some upload) :
    Created names history ⟨id, upload.location⟩ := by
  induction history using List.reverseRecOn generalizing upload with
  | nil => cases found
  | append_singleton before request ih =>
      rw [serveAll_concat] at found
      -- The last request created the upload, or found it in progress.
      cases was : (serveAll { names } before).upload? id with
      | none =>
          obtain ⟨location, rfl, serves, -, rfl⟩ := created_of_new was found
          refine ⟨before, List.prefix_rfl, ?_⟩
          rw [serves]
      | some old =>
          have given := (isServed_serveAll names before).hasGiven was
          have same : upload.location = old.location := by
            rcases upload?_serve given found with
              kept | ⟨_, _, _, older, _, _, _, there, rfl⟩
            · rw [Option.some.inj (was.symm.trans kept)]
            · rw [Option.some.inj (was.symm.trans there)]
          rw [same]
          exact (ih was).append [request]

/-- Holds when an id can stand for an upload to one location only. -/
structure Aims (store : Store) (target : Target) : Prop where
  given : store.HasGiven target.id
  located : ∀ {upload}, store.upload? target.id = some upload →
    upload.location = target.location

theorem Aims.serve (aims : store.Aims target) (request : Request) :
    (store.serve request).1.Aims target where
  given := aims.given.serve request
  located := by
    intro upload found
    rcases upload?_serve aims.given found with
      kept | ⟨_, _, _, old, _, _, _, there, rfl⟩
    · exact aims.located kept
    · have located := aims.located there
      exact located

/-- An upload is in progress only for the location it was created for. -/
theorem Created.aims (created : Created names history target) :
    (serveAll { names } history).Aims target := by
  obtain ⟨before, answered⟩ := created
  apply answered.lasts (·.Aims target)
  · intro store request aims
    exact aims.serve request
  · obtain ⟨given, -, made⟩ :=
      upload?_of_create (Prod.ext rfl answered.answers)
    refine ⟨given, ?_⟩
    intro upload found
    obtain rfl := Option.some.inj (made.symm.trans found)
    rfl

/-- An upload in progress was created once, for its location. -/
theorem created_iff {id : UploadId} {upload : ActiveUpload}
    (found : (serveAll { names } history).upload? id = some upload)
    (location : Location) :
    Created names history ⟨id, location⟩ ↔ location = upload.location := by
  constructor
  · intro created
    exact (created.aims.located found).symm
  · rintro rfl
    exact created_of_upload? found

/-- Holds of a tag that a part or an object was given. -/
inductive Tagged (names : NameSupply) (history : List Request) :
    EntityTag → Prop where
  | part {before : List Request} {target : Target} {number : PartNumber}
      {body : Bytes} {receipt : Receipt}
      (taken :
        Answered names history before (.part target number body) receipt) :
      Tagged names history receipt.tag
  | object {before : List Request} {target : Target}
      {receipts : List Receipt} {completion : Completion}
      (completed :
        Answered names history before (.complete target receipts)
          completion) :
      Tagged names history completion.tag

theorem Answered.hasGivenTag {request : Request} {answer : request.Answer}
    (answered : Answered names history before request answer)
    (new : tag = (serveAll { names } before).nextTag)
    (gives :
      (serveAll { names } before).tagsGiven <
        ((serveAll { names } before).serve request).1.tagsGiven) :
    (serveAll { names } history).HasGivenTag tag := by
  apply answered.lasts (·.HasGivenTag tag)
  · intro store request given
    exact given.serve request
  · rw [new]
    exact hasGivenTag_nextTag gives

theorem Tagged.hasGivenTag (tagged : Tagged names history tag) :
    (serveAll { names } history).HasGivenTag tag := by
  cases tagged with
  | part taken =>
      obtain ⟨-, new, gives⟩ := part?_of_takes taken.answers
      exact taken.hasGivenTag new gives
  | @object before target receipts completion completed =>
      obtain ⟨new, gives⟩ := tag_of_completes completed.answers
      exact completed.hasGivenTag new gives

/-- Holds of the tag of a part that was taken again later. -/
inductive Replaced (names : NameSupply) (history : List Request) :
    EntityTag → Prop where
  | intro {before between : List Request} {first again : Target}
      {number : PartNumber} {body other : Bytes}
      {receipt renewed : Receipt}
      (taken :
        Answered names history before (.part first number body) receipt)
      (retaken :
        Answered names history
          (before ++ .part first number body :: between)
          (.part again number other) renewed)
      (same : again.id = first.id) : Replaced names history receipt.tag

/-- A tag that was replaced is held nowhere. -/
theorem Replaced.confines (replaced : Replaced names history tag) :
    (serveAll { names } history).Confines tag fun _ _ => False := by
  obtain @⟨before, between, first, again, number, body, other, receipt,
    renewed, taken, retaken, same⟩ := replaced
  apply retaken.lasts (·.Confines receipt.tag fun _ _ => False)
  · intro store request confines
    exact confines.serve request
  · refine Confines.takes ?_ retaken.answers
    -- Until then the tag stays where it was first held.
    rw [same, List.append_cons, serveAll_append, serveAll_concat]
    apply serveAll_keeps (·.Confines receipt.tag _)
    · intro request _ store confines
      exact confines.serve request
    · exact (isTagged_serveAll names before).confines taken.answers

/-! ## What an upload becomes -/

/-- What has come of an upload when its completion was accepted. -/
structure Assembles (names : NameSupply) (history : List Request)
    (target : Target) (receipts : List Receipt) (completion : Completion) :
    Prop where
  /-- The location is the one that the upload was created for. -/
  created : ∀ location,
    Created names history ⟨target.id, location⟩ ↔
      location = completion.location
  /-- The tag was given to nothing before. -/
  new : ¬ Tagged names history completion.tag
  object :
    (serveAll { names } (history ++ [.complete target receipts])).object?
        completion.location =
      some ⟨completion.tag,
        (serveAll { names } history).bodies target.id receipts⟩
  gone :
    (serveAll { names } (history ++ [.complete target receipts])).upload?
      target.id = none

/-- An upload that is completed becomes what its listed parts make up. -/
theorem assembles_of_serve {completion : Completion}
    (served :
      ((serveAll { names } history).serve (.complete target receipts)).2 =
        .ok completion) :
    Assembles names history target receipts completion := by
  obtain ⟨accepts, reserves⟩ := accepts_of_serve served
  obtain ⟨upload, found⟩ := Option.ne_none_iff_exists'.mp accepts.active
  have serves := accepts.serve reserves found
  rw [serves] at served
  obtain rfl := Request.Conclusion.ok.inj served
  refine ⟨created_iff found, ?_, ?_, ?_⟩
  · intro tagged
    exact tagged.hasGivenTag.ne_nextTag rfl
  · rw [serveAll_concat, serves, object?_putObject, if_pos rfl]
  · rw [serveAll_concat, serves, upload?_putObject, upload?_removeUpload,
      if_pos rfl]

end Store

/--
After any requests whatsoever, a completion is accepted if and only if its
target is named and in progress, the parts that it lists, at least one, ascend
and are held under the tags that they are listed by, and the sizes that they
are listed with are not too many bytes for the memory.  Then the upload
becomes the object of these parts, where it was created for, under a tag that
is new.  If the sizes are too many, the completion breaks off, whether the
parts are held or not, and the store stays as it was.  What is listed of an
upload in progress are all of its parts, and these may be completed with,
unless they are too many bytes themselves.  No tag of a part that was taken
again is ever accepted.
-/
theorem accepted_exactly (names : NameSupply) (history : List Request)
    (target : Target) :
    let store := Store.serveAll { names } history
    (∀ receipts,
      (∃ completion : Completion,
        (store.serve (.complete target receipts)).2 = .ok completion) ↔
          store.Accepts target receipts ∧
            Receipt.sizes receipts ≤ Store.maxCapacity) ∧
      (∀ receipts (panic : Panic),
        store.serve (.complete target receipts) =
            (store, .panicked panic) ↔
          store.Considers target receipts ∧
            Store.maxCapacity < Receipt.sizes receipts ∧
            panic = Store.shortage (Receipt.sizes receipts)) ∧
      (∀ receipts completion,
        (store.serve (.complete target receipts)).2 = .ok completion →
          Store.Assembles names history target receipts completion) ∧
      (store.upload? target.id ≠ none →
        target.location.isEmpty = false →
          ∃ listed : List Receipt,
            store.serve (.list target) = (store, .ok listed) ∧
              store.ListsParts target.id listed ∧
              (listed ≠ [] →
                (store.bodies target.id listed).length ≤
                    Store.maxCapacity →
                  ∃ completion : Completion,
                    (store.serve (.complete target listed)).2 =
                      .ok completion)) ∧
      (∀ receipts, ∀ receipt ∈ receipts,
        Store.Replaced names history receipt.tag →
          ∀ completion : Completion,
            (store.serve (.complete target receipts)).2 ≠
              .ok completion) := by
  intro store
  refine ⟨fun _ => Store.accepts_iff, fun _ _ => Store.breaks_iff,
    fun _ _ served => Store.assembles_of_serve served, ?_, ?_⟩
  · intro active present
    obtain ⟨upload, found⟩ := Option.ne_none_iff_exists'.mp active
    have given := (Store.isServed_serveAll names history).hasGiven found
    simp only [Location.isEmpty, Bool.or_eq_false_iff,
      String.isEmpty_eq_false_iff] at present
    have named : target.IsNamed :=
      ⟨given.text_ne, present.1, present.2⟩
    obtain ⟨listed, serves, lists⟩ :=
      Store.listsParts_of_upload? named active
    refine ⟨listed, serves, lists, fun nonempty fits => ?_⟩
    exact Store.accepts_iff.mpr
      ⟨lists.accepts named active nonempty, lists.sizes_le.trans fits⟩
  · intro receipts receipt member replaced completion served
    obtain ⟨part, found, same⟩ :=
      (Store.accepts_of_serve served).1.held receipt member
    exact replaced.confines.within found same

namespace Store

/-- An upload in the store of `mended`. -/
def mendedTarget : Target :=
  ⟨⟨"upload-1"⟩, ⟨⟨"bucket"⟩, ⟨"key"⟩⟩⟩

/-- Two parts are taken, and the second of them twice. -/
def mended : List Request :=
  [.create mendedTarget.location, .part mendedTarget ⟨1⟩ [1],
    .part mendedTarget ⟨2⟩ [2], .part mendedTarget ⟨2⟩ [3]]

/-- What is listed in the end. -/
def mendedParts : List Receipt :=
  [{ number := ⟨1⟩, tag := ⟨"etag-1"⟩, size := 1 },
    { number := ⟨2⟩, tag := ⟨"etag-3"⟩, size := 1 }]

/-- The receipt of the second part, when it was first taken. -/
def mendedReceipt : Receipt :=
  { number := ⟨2⟩, tag := ⟨"etag-2"⟩, size := 1 }

theorem replaced_mended : Replaced (.counted "") mended mendedReceipt.tag := by
  have taken :
      Answered (.counted "") mended (mended.take 2) (.part mendedTarget ⟨2⟩ [2])
        mendedReceipt :=
    ⟨by decide, rfl⟩
  have retaken :
      Answered (.counted "") mended
        (mended.take 2 ++ .part mendedTarget ⟨2⟩ [2] :: [])
        (.part mendedTarget ⟨2⟩ [3])
        { mendedReceipt with tag := ⟨"etag-3"⟩ } :=
    ⟨by decide, rfl⟩
  exact .intro taken retaken rfl

/-- The first part, which is said to have as many bytes as a word can tell. -/
def mendedClaim : Receipt :=
  { number := ⟨1⟩, tag := ⟨"etag-1"⟩, size := 18446744073709551615 }

end Store

/--
The parts that are listed become an object, and no replaced one does.  But a
part that is said to have too many bytes is not refused.
-/
theorem accepted_mended :
    let store := Store.serveAll {} Store.mended
    store.serve (.list Store.mendedTarget) =
        (store, .ok Store.mendedParts) ∧
      (∃ completion,
        Store.Assembles (.counted "") Store.mended Store.mendedTarget
          Store.mendedParts completion) ∧
      (store.Accepts Store.mendedTarget [Store.mendedClaim] ∧
        store.serve
            (.complete Store.mendedTarget [Store.mendedClaim]) =
          (store, .panicked .capacity)) ∧
      ∀ receipts, ∀ receipt ∈ receipts,
        receipt.tag = Store.mendedReceipt.tag →
          ∀ completion : Completion,
            (store.serve (.complete Store.mendedTarget receipts)).2 ≠
              .ok completion := by
  obtain ⟨-, breaks, assembles, lists, stale⟩ :=
    accepted_exactly (.counted "") Store.mended Store.mendedTarget
  intro store
  have active : store.upload? Store.mendedTarget.id ≠ none :=
    Option.isSome_iff_ne_none.mp rfl
  refine ⟨rfl, ?_, ?_, ?_⟩
  · obtain ⟨listed, serves, -, completes⟩ := lists active (by decide)
    obtain rfl : Store.mendedParts = listed :=
      Request.Conclusion.ok.inj (congrArg Prod.snd serves)
    obtain ⟨completion, served⟩ := completes (by decide) (by decide)
    exact ⟨completion, assembles _ _ served⟩
  · have considers :
        store.Considers Store.mendedTarget [Store.mendedClaim] :=
      ⟨⟨by decide, by decide, by decide⟩, active, by decide,
        List.pairwise_singleton _ _⟩
    refine ⟨⟨considers, ?_⟩,
      (breaks _ _).mpr ⟨considers, by decide, by decide⟩⟩
    intro receipt member
    obtain rfl := List.mem_singleton.mp member
    exact ⟨⟨⟨"etag-1"⟩, [1]⟩, rfl, rfl⟩
  · intro receipts receipt member same
    apply stale receipts receipt member
    rw [same]
    exact Store.replaced_mended

end Multipart
