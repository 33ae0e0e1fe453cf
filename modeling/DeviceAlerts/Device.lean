import DeviceAlerts.Datum

/-! Monitored devices. A device is known by its number and by the network address that its
messages come from. Nobody checks the fields of a record that is handed in. -/

namespace DeviceAlerts

open DeviceAlerts.Time

structure Device where
  id : Datum
  name : Datum
  type : Datum
  address : Datum
  responsible : List Datum
  createdAt : Datum
  updatedAt : Datum
  deriving DecidableEq

/-- The number that messages from an unknown address are filed under. -/
def Device.unknownId : Int := -1

/-- What stands for a device that is not known. -/
def Device.unknown : Device :=
  ⟨.int unknownId, .text "unknown device", .text "unknown device", .text "unknown device", [],
    .null, .null⟩

/-- A device that is not stored yet; the people responsible may be given as numerals. -/
structure DeviceDraft where
  name : Datum
  type : Datum
  address : Datum
  responsible : Datum
  deriving DecidableEq

inductive DeviceChange
  | name (given : Datum)
  | type (given : Datum)
  | address (given : Datum)
  | responsible (given : Datum)
  /-- The name of no field that can be changed. -/
  | unknown (field : String)
  deriving DecidableEq

namespace DeviceChange

def unknown? : DeviceChange → Option String
  | unknown field => some field
  | _ => none

def address? : DeviceChange → Option Datum
  | address given => some given
  | _ => none

end DeviceChange

end DeviceAlerts
