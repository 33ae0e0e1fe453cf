import DeviceAlerts.Proofs.Gathering
import DeviceAlerts.Store.Devices

/-! The types of the fields of devices. What is handed in has them when names, types and addresses
are texts and the people responsible are a list of numbers; nothing then goes wrong in storing it,
and changes are made field by field. -/

namespace DeviceAlerts

open DeviceAlerts.Store DeviceAlerts.Time

structure DeviceDraft.Typed (d : DeviceDraft) : Prop where
  name : ∃ s : String, d.name = .text s
  type : ∃ s : String, d.type = .text s
  address : ∃ s : String, d.address = .text s
  responsible : ∃ people : List Int, d.responsible = .list (people.map .int)

structure Device.Typed (d : Device) : Prop where
  id : ∃ i : Int, d.id = .int i
  name : ∃ s : String, d.name = .text s
  type : ∃ s : String, d.type = .text s
  address : ∃ s : String, d.address = .text s
  responsible : ∃ people : List Int, d.responsible = people.map .int
  createdAt : ∃ m : Moment, d.createdAt = .moment m
  updatedAt : ∃ m : Moment, d.updatedAt = .moment m

/-- A change of a field that there is, to a value of its type. -/
def DeviceChange.Typed : DeviceChange → Prop
  | name given | type given | address given => ∃ s : String, given = .text s
  | responsible given => ∃ people : List Int, given = .list (people.map .int)
  | unknown _ => False

/-- The device that a draft becomes under a number. -/
def DeviceDraft.stored (d : DeviceDraft) (people : List Int) (id : Int) (now : Moment) : Device :=
  ⟨.int id, d.name, d.type, d.address, people.map .int, .moment now, .moment now⟩

theorem DeviceDraft.Typed.stored {d : DeviceDraft} (h : d.Typed) (people : List Int) (id : Int)
    (now : Moment) : (d.stored people id now).Typed :=
  ⟨⟨id, rfl⟩, h.name, h.type, h.address, ⟨people, rfl⟩, ⟨now, rfl⟩, ⟨now, rfl⟩⟩

theorem Datum.readIntegers_list (people : List Int) :
    (Datum.list (people.map .int)).readIntegers = .ok people := by
  have read : people.mapM (toInteger ∘ int) = .ok (people.map id) := mapM_eq_ok fun _ _ => rfl
  show (toIntegers (people.map .int)).mapError Failure.notInteger = _
  rw [toIntegers, List.mapM_map, read, List.map_id]
  rfl

/-! ### Changes -/

namespace DeviceChange

/-- A change whose value has the right type. -/
def apply (d : Device) : DeviceChange → Device
  | name given => { d with name := given }
  | type given => { d with type := given }
  | address given => { d with address := given }
  | responsible (.list people) => { d with responsible := people }
  | responsible _ | unknown _ => d

def applyAll (d : Device) (changes : List DeviceChange) : Device := changes.foldl apply d

/-- The record that results from changes. -/
def revised (now : Moment) (changes : List DeviceChange) (d : Device) : Device :=
  { applyAll d changes with updatedAt := .moment now }

variable {d : Device} {changes : List DeviceChange}

theorem Typed.change {c : DeviceChange} (h : c.Typed) (d : Device) :
    Devices.change d c = .ok (c.apply d) := by
  cases c with
  | responsible given =>
    obtain ⟨people, rfl⟩ := h
    rw [Devices.change, Datum.readIntegers_list]
    rfl
  | unknown _ => exact h.elim
  | _ => rfl

theorem changeAll_typed (typed : ∀ c ∈ changes, c.Typed) (d : Device) :
    Devices.changeAll d changes = .ok (applyAll d changes) :=
  foldlM_eq_ok (fun d c hc => (typed c hc).change d) d

@[simp] theorem id_applyAll (d : Device) (changes : List DeviceChange) :
    (applyAll d changes).id = d.id := by
  induction changes generalizing d with
  | nil => rfl
  | cons c rest ih =>
    show (applyAll (c.apply d) rest).id = d.id
    rw [ih]
    unfold apply
    split <;> rfl

/-- The last address given is the address in the end. -/
theorem address_applyAll (d : Device) (changes : List DeviceChange) :
    (applyAll d changes).address = (changes.filterMap address?).getLast?.getD d.address := by
  induction changes generalizing d with
  | nil => rfl
  | cons c rest ih =>
    show (applyAll (c.apply d) rest).address = _
    rw [ih, List.filterMap_cons]
    cases c with
    | address given =>
      show _ = ((given :: rest.filterMap address?).getLast?).getD d.address
      rw [List.getLast?_cons]
      rfl
    | responsible given =>
      cases given <;> rfl
    | _ => rfl

end DeviceChange

namespace Device.Typed

variable {d : Device}

theorem apply (h : d.Typed) {c : DeviceChange} (hc : c.Typed) : (c.apply d).Typed := by
  cases c with
  | name given => exact { h with name := hc }
  | type given => exact { h with type := hc }
  | address given => exact { h with address := hc }
  | responsible given =>
    obtain ⟨people, rfl⟩ := hc
    exact { h with responsible := ⟨people, rfl⟩ }
  | unknown _ => exact hc.elim

theorem applyAll (h : d.Typed) {changes : List DeviceChange} (typed : ∀ c ∈ changes, c.Typed) :
    (DeviceChange.applyAll d changes).Typed := by
  induction changes generalizing d with
  | nil => exact h
  | cons c rest ih =>
    obtain ⟨hc, hrest⟩ := List.forall_mem_cons.mp typed
    exact ih (h.apply hc) hrest

theorem revised (h : d.Typed) {changes : List DeviceChange} (typed : ∀ c ∈ changes, c.Typed)
    (now : Moment) : (DeviceChange.revised now changes d).Typed :=
  { h.applyAll typed with updatedAt := ⟨now, rfl⟩ }

end Device.Typed

end DeviceAlerts
