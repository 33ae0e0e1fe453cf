import DeviceAlerts.Store.Call

/-! Devices in memory. Rows stay in the order of their creation, which is also the order of their
numbers; a number is never given twice. -/

namespace DeviceAlerts.Store

open DeviceAlerts.Time

structure Devices where
  nextId : Int
  rows : List Device
  deriving DecidableEq

namespace Devices

def empty : Devices := ⟨1, []⟩

def find? (s : Devices) (id : Int) : Option Device := s.rows.find? fun d => d.id = .int id

/-- Whether an address belongs to a device other than the given one. -/
def addressTaken (s : Devices) (address : Datum) (except : Option Datum) : Bool :=
  s.rows.any fun d => d.address == address && some d.id ≠ except

/-- A draft that is refused for its people has used up a number. -/
def create (s : Devices) (now : Moment) (draft : DeviceDraft) :
    Except Failure Device × Devices :=
  if s.addressTaken draft.address none then (.error (.addressTaken draft.address), s)
  else
    match draft.responsible.readIntegers with
    | .error failure => (.error failure, { s with nextId := s.nextId + 1 })
    | .ok people =>
      let device : Device :=
        ⟨.int s.nextId, draft.name, draft.type, draft.address, people.map .int, .moment now,
          .moment now⟩
      (.ok device, ⟨s.nextId + 1, s.rows ++ [device]⟩)

def replace (s : Devices) (device : Device) : Devices :=
  { s with rows := s.rows.map fun d => if d.id = device.id then device else d }

/-- A change with its numerals read. -/
def change (d : Device) : DeviceChange → Except Failure Device
  | .name given => .ok { d with name := given }
  | .type given => .ok { d with type := given }
  | .address given => .ok { d with address := given }
  | .responsible given => do
    let people ← given.readIntegers
    return { d with responsible := people.map .int }
  | .unknown _ => .ok d

/-- The changes of a list, one after the other. -/
def changeAll (d : Device) (changes : List DeviceChange) : Except Failure Device :=
  changes.foldlM change d

/-- The record that results from changes to a stored one. -/
def revise (s : Devices) (now : Moment) (old : Device) (changes : List DeviceChange) :
    Except Failure Device :=
  match (changes.filterMap DeviceChange.address?).find? fun a => s.addressTaken a (some old.id) with
  | some address => .error (.addressTaken address)
  | none => (changeAll old changes).map fun new => { new with updatedAt := .moment now }

/-- Unknown fields are found out first, whether the device exists or not. -/
def update (s : Devices) (now : Moment) (id : Datum) (changes : List DeviceChange) :
    Except Failure (Option Device) × Devices :=
  let strange := changes.filterMap DeviceChange.unknown?
  if !strange.isEmpty then (.error (.unknownFields (strange.mergeSort (· ≤ ·))), s)
  else
    match id.readInteger with
    | .error failure => (.error failure, s)
    | .ok id =>
      match s.find? id with
      | none => (.ok none, s)
      | some old =>
        match s.revise now old changes with
        | .error failure => (.error failure, s)
        | .ok new => (.ok (some new), s.replace new)

def delete (s : Devices) (id : Datum) : Except Failure Bool × Devices :=
  match id.readInteger with
  | .error failure => (.error failure, s)
  | .ok id =>
    (.ok (s.rows.any fun d => d.id = .int id),
      { s with rows := s.rows.filter fun d => d.id ≠ .int id })

def get (s : Devices) (id : Datum) : Except Failure (Option Device) := id.readInteger.map s.find?

end Devices

end DeviceAlerts.Store
