import Multipart.Proofs.Resuming

/-!
# What the store has of an upload's receipts

A receipt is worth something as long as the store has the part that it is
for, under the tag that it tells.  The requests of an upload keep this so,
until it is completed or aborted, and the requests for other uploads have no
part in it.  The main statements are `Store.Stocks.takePart`, for the parts
that an upload sends, and `Uploader.Obtains.stocks`, for those it starts from.
-/

namespace Multipart

/-- Holds of the receipts that are counted as done. -/
def Progress.Counts (progress : Progress) (number : PartNumber)
    (receipt : Receipt) : Prop :=
  progress.existing.find? number = some receipt ∨
    progress.recorded.find? number = some receipt

/-- The receipt of a part counts. -/
theorem Progress.counts_of_receipt? {progress : Progress}
    {number : PartNumber} {receipt : Receipt}
    (found : progress.receipt? number = some receipt) :
    progress.Counts number receipt :=
  (Option.or_eq_some_iff.mp found).imp_right And.right

/-- To begin with, the last receipt that was given for a part counts. -/
theorem Progress.counts_ofReceipts {receipts : List Receipt}
    {number : PartNumber} {receipt : Receipt} :
    (ofReceipts receipts).Counts number receipt ↔
      Receipt.last? receipts number = some receipt := by
  rw [Counts, find?_existing_ofReceipts]
  exact or_iff_left nofun

namespace Store

variable {store after : Store} {id : UploadId}

/-! ## Requests and the uploads in progress -/

/-- A request for another upload leaves what the id stands for. -/
theorem upload?_serve_of_spares (given : store.HasGiven id)
    {request : Request} (spares : request.Spares id) :
    (store.serve request).1.upload? id = store.upload? id := by
  have served := store.served_serve request
  generalize (store.serve request).1 = after at *
  generalize (store.serve request).2 = conclusion at *
  cases served with
  | refused => rfl
  | created location =>
      change (putUpload _ store.nextId _).upload? id = _
      rw [upload?_putUpload, if_neg given.ne_nextId]
      rfl
  | taken target number body found =>
      rw [upload?_putUpload, if_neg (Ne.symm spares)]
      rfl
  | completed target receipts found =>
      rw [upload?_putObject, upload?_removeUpload, if_neg (Ne.symm spares)]
      rfl
  | broken => rfl
  | aborted target => rw [upload?_removeUpload, if_neg (Ne.symm spares)]
  | listed => rfl

/-- What an id comes to stand for was created under it, as its next id. -/
theorem created_of_new {request : Request} {active : ActiveUpload}
    (absent : store.upload? id = none)
    (found : (store.serve request).1.upload? id = some active) :
    ∃ location, request = .create location ∧
      store.serve (.create location) =
        ((store.create location).1, .ok ⟨id, location⟩) ∧
      id = store.nextId ∧ active = { location } := by
  rcases serves : store.serve request with ⟨after, conclusion⟩
  rw [serves] at found
  cases served_of_eq serves with
  | refused => cases absent.symm.trans found
  | created location =>
      change (putUpload _ store.nextId _).upload? id = _ at found
      rw [upload?_putUpload] at found
      split at found
      · rename_i new
        subst new
        exact ⟨location, rfl, serves, rfl, (Option.some.inj found).symm⟩
      · cases absent.symm.trans found
  | taken target number body was =>
      rw [upload?_putUpload] at found
      split at found
      · rename_i same
        cases absent.symm.trans (same ▸ was)
      · cases absent.symm.trans found
  | completed target receipts was =>
      rw [upload?_putObject, upload?_removeUpload] at found
      split at found
      · cases found
      · cases absent.symm.trans found
  | broken => cases absent.symm.trans found
  | aborted target =>
      rw [upload?_removeUpload] at found
      split at found
      · cases found
      · cases absent.symm.trans found
  | listed => cases absent.symm.trans found

/-- Only a new id comes to stand for an upload. -/
theorem hasGiven_of_new {request : Request} {active : ActiveUpload}
    (absent : store.upload? id = none)
    (found : (store.serve request).1.upload? id = some active) :
    (store.serve request).1.HasGiven id := by
  obtain ⟨location, rfl, serves, new, -⟩ := created_of_new absent found
  rw [serves]
  exact ⟨store.idsGiven + 1, Nat.le_refl _, new⟩

/-! ## Stores that were served only -/

/-- Holds of a store that was empty once and has served requests since. -/
def IsServed (store : Store) : Prop :=
  ∃ names,
    Relation.ReflTransGen
      (fun before after : Store =>
        ∃ request : Request, after = (before.serve request).1)
      { names } store

theorem isServed_empty (names : NameSupply) : IsServed { names } :=
  ⟨names, .refl⟩

theorem IsServed.serve (served : store.IsServed) (request : Request) :
    (store.serve request).1.IsServed := by
  rcases served with ⟨names, served⟩
  exact ⟨names, served.tail ⟨request, rfl⟩⟩

theorem IsServed.elsewhere (served : store.IsServed)
    (apart : Elsewhere id store after) : after.IsServed := by
  induction apart with
  | refl => exact served
  | tail before step ih =>
      rcases step with ⟨request, _, rfl⟩
      exact ih.serve request

/-- What is in progress in such a store was created there. -/
theorem IsServed.hasGiven (served : store.IsServed)
    {active : ActiveUpload} (found : store.upload? id = some active) :
    store.HasGiven id := by
  rcases served with ⟨names, served⟩
  induction served generalizing active with
  | refl => cases found
  | @tail middle _ before step ih =>
      rcases step with ⟨request, rfl⟩
      cases was : middle.upload? id with
      | none => exact hasGiven_of_new was found
      | some old => exact (ih was).serve request

/-! ## Parts that are done -/

/-- Holds when the store has every part that is counted as done. -/
structure Stocks (store : Store) (id : UploadId) (progress : Progress) :
    Prop where
  given : store.HasGiven id
  held : ∃ active, store.upload? id = some active ∧
    ∀ number receipt, progress.Counts number receipt →
      ∃ part, active.parts.find? number = some part ∧
        part.tag = receipt.tag

variable {progress : Progress}

/-- What other uploads do leaves the parts that have a receipt. -/
theorem Stocks.elsewhere (stocks : store.Stocks id progress)
    (apart : Elsewhere id store after) : after.Stocks id progress := by
  induction apart with
  | refl => exact stocks
  | tail before step ih =>
      rcases step with ⟨request, spares, rfl⟩
      refine ⟨ih.given.serve request, ?_⟩
      rw [upload?_serve_of_spares ih.given spares]
      exact ih.held

/-- A part that is taken has a receipt, and the others keep theirs. -/
theorem Stocks.takePart (stocks : store.Stocks id progress)
    {aim : Target} {number : PartNumber} {body : Bytes} {receipt : Receipt}
    (serves : store.serve (.part aim number body) = (after, .ok receipt))
    (named : aim.id = id)
    (fresh : progress.existing.find? number = none) :
    after.Stocks id (progress.record receipt) := by
  have given := stocks.given.serve (.part aim number body)
  rw [serves] at given
  refine ⟨given, ?_⟩
  rcases stocks.held with ⟨active, there, held⟩
  subst named
  cases served_of_eq serves with
  | taken _ _ _ found =>
      obtain rfl := Option.some.inj (there.symm.trans found)
      rw [upload?_putUpload, if_pos rfl]
      refine ⟨_, rfl, fun other kept recorded => ?_⟩
      rw [PartTable.find?_insert]
      rw [Progress.Counts, Progress.existing_record,
        Progress.find?_recorded_record] at recorded
      by_cases same : other = number
      · subst same
        rw [fresh, if_pos rfl] at recorded
        rcases recorded with old | new
        · cases old
        · obtain rfl := Option.some.inj new
          exact ⟨_, if_pos rfl, rfl⟩
      · rw [if_neg same] at recorded ⊢
        exact held other kept recorded

end Store

/-! ## Uploads that are obtained -/

/--
How an uploader comes to an upload: it starts one, or it resumes one with a
token, which may be any.
-/
inductive Uploader.Obtains (uploader : Uploader) (length : UInt64)
    (target : Target) (plan : Plan) (store : Store) :
    Option Checkpoint → List Receipt → Prop where
  | started {location : Location}
      (starts : uploader.Starts length location target plan store) :
      Obtains uploader length target plan store none []
  | resumed {before : Store} {token : Checkpoint} {listed : List Receipt}
      (served : before.IsServed) (named : token.id = target.id)
      (accepted : Uploader.resumePlan token length = .ok plan)
      (lists : Uploader.Lists token target before store listed) :
      Obtains uploader length target plan store (some token) listed

/-- Holds of a token, if there is one, for which the store was asked. -/
def Checkpoint.Asks (token : Option Checkpoint) : Prop :=
  ∀ checkpoint ∈ token, 0 < checkpoint.partsDone

namespace Store

variable {store after : Store} {target : Target} {plan : Plan}

/-- A new upload is in progress, and there are no receipts for it yet. -/
theorem stocks_create {location : Location}
    (created : store.serve (.create location) = (after, .ok target)) :
    after.Stocks target.id (Progress.ofReceipts []) := by
  obtain ⟨given, located, found⟩ := upload?_of_create created
  refine ⟨given, { location }, found, fun number receipt counted => ?_⟩
  cases Progress.counts_ofReceipts.mp counted

/-- What is listed is in the store, whichever of it is kept. -/
theorem stocks_list {listed : List Receipt} (served : store.IsServed)
    (serves : store.serve (.list target) = (after, .ok listed))
    (keep : Receipt → Bool) :
    after.Stocks target.id (Progress.ofReceipts (listed.filter keep)) := by
  cases served_of_eq serves with
  | listed _ lists =>
      rw [Store.list] at lists
      split at lists
      · cases lists
      · rename_i active found
        obtain rfl := Except.ok.inj lists
        refine ⟨served.hasGiven found, active, found,
          fun number receipt told => ?_⟩
        replace told := Progress.counts_ofReceipts.mp told
        have numbered := List.find?_some told
        have member := List.mem_of_find?_eq_some told
        rw [List.mem_reverse] at member
        obtain ⟨⟨other, part⟩, entry, rfl⟩ :=
          List.mem_map.mp (List.mem_of_mem_filter member)
        obtain rfl : other = number := by simpa using numbered
        exact ⟨part, PartTable.find?_of_mem_toList entry, rfl⟩

end Store

/--
Whoever starts an upload, or resumes one and asks what there is, has receipts
of parts that the store has.  Without asking there are no receipts, and the
upload may be in progress or not.
-/
theorem Uploader.Obtains.stocks {uploader : Uploader} {length : UInt64}
    {target : Target} {plan : Plan} {store : Store}
    {token : Option Checkpoint} {given : List Receipt}
    (obtains : uploader.Obtains length target plan store token given)
    (active : Checkpoint.Asks token ∨ store.upload? target.id ≠ none) :
    store.Stocks target.id
      (Progress.ofReceipts
        (given.filter fun receipt => plan.contains receipt.number)) := by
  cases obtains with
  | started starts =>
      rcases starts.created with ⟨origin, made, created, apart⟩
      exact (Store.stocks_create created).elsewhere apart
  | @resumed before token listed served named accepted lists =>
      cases lists with
      | asked wanted apart serves =>
          exact Store.stocks_list (served.elsewhere apart) serves _
      | skipped unwanted apart =>
          rcases active with asks | there
          · have some : 0 < token.partsDone := asks token rfl
            rw [listing?, if_pos some] at unwanted
            cases unwanted
          · obtain ⟨active, found⟩ := Option.ne_none_iff_exists'.mp there
            refine ⟨(served.elsewhere apart).hasGiven found, active, found,
              fun number receipt told => ?_⟩
            cases Progress.counts_ofReceipts.mp told

end Multipart
