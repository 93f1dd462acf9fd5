import Mathlib.Data.List.Basic
import Multipart.Service.Line

/-!
# What requests and replies say

A request says on the wire what it is about and nothing else, and all that an
answer says stands in the reply it was made from.  So a receipt that was made
from a reply tells the service again what the service has told: the main
statements are `Request.spells_of_prepare` and `Request.receive_part_eq_ok`.
-/

namespace Multipart

/-- What fails for no element of a list gives a result for each of them. -/
theorem mapM_eq_ok {Input Output Error : Type}
    {make : Input → Except Error Output} {inputs : List Input}
    {outputs : List Output} :
    inputs.mapM make = .ok outputs ↔
      inputs.map make = outputs.map .ok := by
  induction inputs generalizing outputs with
  | nil => cases outputs <;> simp [pure, Except.pure]
  | cons input inputs ih =>
      rw [List.mapM_cons]
      cases outputs with
      | nil =>
          cases make input <;> cases inputs.mapM make <;>
            simp [bind, Except.bind, pure, Except.pure]
      | cons first others =>
          rw [List.map_cons, List.map_cons, List.cons.injEq, ← ih]
          cases make input <;> cases inputs.mapM make <;>
            simp [bind, Except.bind, pure, Except.pure]

/-- There are results as soon as nothing fails for an element. -/
theorem exists_mapM_eq_ok {Input Output Error : Type}
    {make : Input → Except Error Output} {inputs : List Input} :
    (∃ outputs, inputs.mapM make = .ok outputs) ↔
      ∀ input ∈ inputs, ∃ output, make input = .ok output := by
  constructor
  · rintro ⟨outputs, made⟩ input member
    have told := List.mem_map_of_mem member (f := make)
    rw [mapM_eq_ok.mp made] at told
    obtain ⟨output, _, same⟩ := List.mem_map.mp told
    exact ⟨output, same.symm⟩
  · intro each
    induction inputs with
    | nil => exact ⟨[], rfl⟩
    | cons input inputs ih =>
        obtain ⟨output, made⟩ := each input List.mem_cons_self
        obtain ⟨outputs, others⟩ :=
          ih fun other member => each other (List.mem_cons_of_mem _ member)
        refine ⟨output :: outputs, mapM_eq_ok.mpr ?_⟩
        rw [List.map_cons, List.map_cons, made, mapM_eq_ok.mp others]

/-! ## Requests -/

/-- What a complete request has to say of a receipt. -/
def Receipt.echo (receipt : Receipt) : WirePart where
  number := receipt.number.toNat
  tag := receipt.tag
  checksums := receipt.checksums

theorem Receipt.eq_echo {receipt : Receipt} {part : WirePart}
    (made : receipt.toWire = .ok part) : part = receipt.echo := by
  rw [toWire, PartNumber.toWire] at made
  split at made
  · cases made
  · rename_i number same
    split at same
    · obtain rfl := Except.ok.inj same
      exact (Except.ok.inj made).symm
    · cases same

/-- Of a list of receipts each is told, in their order. -/
theorem Receipt.eq_map_echo {receipts : List Receipt}
    {parts : List WirePart}
    (made : receipts.mapM Receipt.toWire = .ok parts) :
    parts = receipts.map Receipt.echo := by
  have same := mapM_eq_ok.mp made
  have each (receipt : Receipt) (member : receipt ∈ receipts) :
      receipt.toWire = .ok receipt.echo := by
    have told := List.mem_map_of_mem member (f := Receipt.toWire)
    rw [same] at told
    obtain ⟨part, _, made⟩ := List.mem_map.mp told
    rw [← Receipt.eq_echo made.symm, made]
  apply List.map_injective_iff.mpr fun _ _ => Except.ok.inj
  rw [← same, List.map_map]
  exact List.map_congr_left each

/-- A request, and how it is spelled on the wire. -/
inductive Request.Spells : Request → WireRequest → Prop where
  | create (location : Location) :
      Spells (.create location) (.create location)
  | part (target : Target) (number : PartNumber) (body : Bytes) :
      Spells (.part target number body)
        (.part target number.toNat ⟨body, body.length⟩)
  | complete (target : Target) (receipts : List Receipt) :
      Spells (.complete target receipts)
        (.complete target (receipts.map Receipt.echo))
  | abort (target : Target) : Spells (.abort target) (.abort target)
  | list (target : Target) : Spells (.list target) (.list target none)

/-- What is sent of a request is how it is spelled. -/
theorem Request.spells_of_prepare {request : Request} {wire : WireRequest}
    (prepared : request.prepare = .ok wire) : request.Spells wire := by
  rw [prepare] at prepared
  split at prepared
  · cases prepared
  · cases request with
    | create location =>
        obtain rfl := Except.ok.inj prepared
        exact .create location
    | part target number body =>
        rw [toWire, PartNumber.toWire] at prepared
        split at prepared
        · cases prepared
        · rename_i told same
          split at same
          · obtain rfl := Except.ok.inj same
            obtain rfl := Except.ok.inj prepared
            exact .part target number body
          · cases same
    | complete target receipts =>
        rw [toWire] at prepared
        split at prepared
        · cases prepared
        · rename_i parts made
          obtain rfl := Except.ok.inj prepared
          obtain rfl := Receipt.eq_map_echo made
          exact .complete target receipts
    | abort target =>
        obtain rfl := Except.ok.inj prepared
        exact .abort target
    | list target =>
        obtain rfl := Except.ok.inj prepared
        exact .list target

/-! ## Replies -/

/-- An upload has an id when the body of the reply has one. -/
theorem Request.receive_create_eq_ok {location : Location}
    {arrival : Arrival} {target : Target} :
    (create location).receive arrival = .ok target ↔
      ∃ id, arrival = .ok (.created (some id)) ∧
        target = { id := ⟨id⟩, location } := by
  constructor
  · intro received
    cases arrival with
    | error fault => cases received
    | ok reply =>
        cases reply with
        | created id? =>
            cases id? with
            | none => cases received
            | some id =>
                obtain rfl := Except.ok.inj received
                exact ⟨id, rfl, rfl⟩
        | _ => cases received
  · rintro ⟨id, rfl, rfl⟩
    rfl

/-- A part has a receipt when the head of its reply has a tag. -/
theorem Request.receive_part_eq_ok {target : Target} {number : PartNumber}
    {body : Bytes} {arrival : Arrival} {receipt : Receipt} :
    (part target number body).receive arrival = .ok receipt ↔
      ∃ tag checksums,
        arrival = .ok (.stored (some tag) checksums) ∧
          receipt =
            { number
              tag := ⟨tag⟩
              checksums
              size := UInt64.ofNat body.length } := by
  constructor
  · intro received
    cases arrival with
    | error fault => cases received
    | ok reply =>
        cases reply with
        | stored tag? checksums =>
            cases tag? with
            | none => cases received
            | some tag =>
                obtain rfl := Except.ok.inj received
                exact ⟨tag, checksums, rfl, rfl⟩
        | _ => cases received
  · rintro ⟨tag, checksums, rfl, rfl⟩
    rfl

end Multipart
