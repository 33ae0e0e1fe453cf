import DeviceAlerts.Form.Value

/-! The forms by which tags are created and changed. -/

namespace DeviceAlerts.Form

open DeviceAlerts.Text

namespace TagField

def name : Field := .named "name"
def deviceId : Field := ⟨"device_id", "deviceId"⟩
def regexp : Field := .named "regexp"
def compareType : Field := ⟨"compare_type", "compareType"⟩
def value : Field := .named "value"
def arrayIndex : Field := ⟨"array_index", "arrayIndex"⟩
def subject : Field := .named "subject"
def severity : Field := ⟨"severity_level", "severityLevel"⟩

def all : List Field :=
  [name, deviceId, regexp, compareType, value, arrayIndex, subject, severity]

end TagField

structure TagForm where
  name : String
  deviceId : Int
  regexp : String
  compareType : CompareType
  value : String
  arrayIndex : Nat
  subject : String
  severity : Severity
  deriving DecidableEq

namespace TagForm

def read (form : Datum) : Checked TagForm :=
  TagForm.mk <$> TagField.name.required readText form
    <*> TagField.deviceId.required readInteger form
    <*> TagField.regexp.required readText form
    <*> TagField.compareType.required readCompareType form
    <*> TagField.value.required readText form
    <*> TagField.arrayIndex.withDefault readNatural 0 form
    <*> TagField.subject.required readText form
    <*> TagField.severity.withDefault readSeverity .warning form

/-- A name is kept without the white space around it. -/
def draft (f : TagForm) : TagDraft :=
  ⟨.int f.deviceId, .text (trim f.name),
    ⟨.text f.regexp, .text f.compareType.symbol, .text f.value, .int f.arrayIndex⟩,
    .text f.subject, .text f.severity.text⟩

def record (f : TagForm) : Datum :=
  .record [("name", .text f.name), ("deviceId", .int f.deviceId), ("regexp", .text f.regexp),
    ("compareType", .text f.compareType.symbol), ("value", .text f.value),
    ("arrayIndex", .int f.arrayIndex), ("subject", .text f.subject),
    ("severityLevel", .text f.severity.text)]

end TagForm

/-- A field that is not given stays as it is. -/
structure TagPatch where
  name : Option String
  deviceId : Option Int
  regexp : Option String
  compareType : Option CompareType
  value : Option String
  arrayIndex : Option Nat
  subject : Option String
  severity : Option Severity
  deriving DecidableEq

namespace TagPatch

def read (form : Datum) : Checked TagPatch :=
  TagPatch.mk <$> TagField.name.optional readText form
    <*> TagField.deviceId.optional readInteger form
    <*> TagField.regexp.optional readText form
    <*> TagField.compareType.optional readCompareType form
    <*> TagField.value.optional readText form
    <*> TagField.arrayIndex.optional readNatural form
    <*> TagField.subject.optional readText form
    <*> TagField.severity.optional readSeverity form

def changes (p : TagPatch) : List TagChange :=
  (p.name.map fun s => .name (.text (trim s))).toList ++
    (p.deviceId.map fun i => .deviceId (.int i)).toList ++
    (p.regexp.map fun s => .regexp (.text s)).toList ++
    (p.compareType.map fun t => .compareType (.text t.symbol)).toList ++
    (p.value.map fun s => .value (.text s)).toList ++
    (p.arrayIndex.map fun n => .arrayIndex (.int n)).toList ++
    (p.subject.map fun s => .subject (.text s)).toList ++
    (p.severity.map fun v => .severity (.text v.text)).toList

def record (p : TagPatch) : Datum :=
  let text (o : Option String) : Datum := o.elim .null .text
  .record [("name", text p.name), ("deviceId", p.deviceId.elim .null .int),
    ("regexp", text p.regexp), ("compareType", text (p.compareType.map (·.symbol))),
    ("value", text p.value), ("arrayIndex", p.arrayIndex.elim .null fun n => .int n),
    ("subject", text p.subject), ("severityLevel", text (p.severity.map (·.text)))]

end TagPatch

end DeviceAlerts.Form
