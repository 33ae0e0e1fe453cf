import DeviceAlerts.Device
import DeviceAlerts.Form.Value

/-! The forms by which devices are created and changed. -/

namespace DeviceAlerts.Form

open DeviceAlerts.Text

namespace DeviceField

def name : Field := .named "name"
def type : Field := ⟨"device_type", "deviceType"⟩
def address : Field := .named "address"
def responsible : Field := .named "responsible"

def all : List Field := [name, type, address, responsible]

end DeviceField

structure DeviceForm where
  name : String
  type : String
  address : String
  responsible : List Int
  deriving DecidableEq

namespace DeviceForm

def read (form : Datum) : Checked DeviceForm :=
  DeviceForm.mk <$> DeviceField.name.required readText form
    <*> DeviceField.type.required readText form
    <*> DeviceField.address.required readText form
    <*> DeviceField.responsible.withDefault readIntegers [] form

/-- Names, types and addresses are kept without the white space around them. -/
def draft (f : DeviceForm) : DeviceDraft :=
  ⟨.text (trim f.name), .text (trim f.type), .text (trim f.address),
    .list (f.responsible.map .int)⟩

def record (f : DeviceForm) : Datum :=
  .record [("name", .text f.name), ("deviceType", .text f.type), ("address", .text f.address),
    ("responsible", .list (f.responsible.map .int))]

end DeviceForm

/-- A field that is not given stays as it is. -/
structure DevicePatch where
  name : Option String
  type : Option String
  address : Option String
  responsible : Option (List Int)
  deriving DecidableEq

namespace DevicePatch

def read (form : Datum) : Checked DevicePatch :=
  DevicePatch.mk <$> DeviceField.name.optional readText form
    <*> DeviceField.type.optional readText form
    <*> DeviceField.address.optional readText form
    <*> DeviceField.responsible.optional readIntegers form

def changes (p : DevicePatch) : List DeviceChange :=
  (p.name.map fun s => .name (.text (trim s))).toList ++
    (p.type.map fun s => .type (.text (trim s))).toList ++
    (p.address.map fun s => .address (.text (trim s))).toList ++
    (p.responsible.map fun ids => .responsible (.list (ids.map .int))).toList

def record (p : DevicePatch) : Datum :=
  let text (o : Option String) : Datum := o.elim .null .text
  .record [("name", text p.name), ("deviceType", text p.type), ("address", text p.address),
    ("responsible", p.responsible.elim .null fun ids => .list (ids.map .int))]

end DevicePatch

end DeviceAlerts.Form
