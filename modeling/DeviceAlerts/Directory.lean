import DeviceAlerts.Notice

/-! The known devices, by number and by address. -/

namespace DeviceAlerts

open DeviceAlerts.Time

structure Directory where
  byId : Table Datum Device
  byAddress : Table Datum Device
  loadedAt : Option Moment

namespace Directory

def empty : Directory := ⟨[], [], none⟩

/-- Of several devices with one address the last has it. -/
def table (devices : List Device) (now : Moment) : Directory :=
  ⟨devices.foldl (fun t d => t.set d.id d) [], devices.foldl (fun t d => t.set d.address d) [],
    some now⟩

/-- A notice for every device that takes an address from an earlier one. -/
def shared (earlier : Table Datum Device) : List Device → List Notice
  | [] => []
  | d :: rest =>
    ((earlier.get? d.address).map fun e => Notice.addressShared d.address e.id d.id).toList ++
      shared (earlier.set d.address d) rest

/-- Devices can be listed only by numbers and addresses that can be looked up. -/
def checkKeys (d : Device) : Except Datum.Misuse Unit := do
  let _ ← d.id.asKey
  let _ ← d.address.asKey

/-- The notices of the devices up to the first that cannot be looked up. -/
def notices (devices : List Device) : List Notice :=
  shared [] (devices.takeWhile fun d => (checkKeys d).isOk)

def ofDevices (devices : List Device) (now : Moment) : Except Datum.Misuse Directory :=
  (devices.mapM checkKeys).map fun _ => table devices now

def find? (d : Directory) (id : Datum) : Option Device := d.byId.get? id

/-- The device with a number, or what stands for an unknown one. -/
def describe (d : Directory) (id : Datum) : Device := (d.find? id).getD Device.unknown

/-- The number of the device with an address. -/
def resolve? (d : Directory) (address : Datum) : Option Datum :=
  (d.byAddress.get? address).map (·.id)

def addresses (d : Directory) : List Datum := d.byAddress.keys

end Directory

end DeviceAlerts
