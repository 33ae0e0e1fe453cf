import DeviceAlerts.Mongo.Document
import DeviceAlerts.Store.Call

/-! Devices, tags and messages as documents, and changes of them as fields to be set. -/

namespace DeviceAlerts

open DeviceAlerts.Time

/-! ### Devices -/

namespace Device

def ofDocument (d : Document) : Except Failure Device := do
  let id ← d.needInteger "id"
  let people ← d.integers "responsible"
  return ⟨.int id, d.given "name", d.given "deviceType", d.given "address", people.map .int,
    d.optional "createdAt", d.optional "updatedAt"⟩

end Device

/-- The document of a new device. -/
def DeviceDraft.document (draft : DeviceDraft) (id : Int) (now : Moment) :
    Except Failure Document := do
  let people ← draft.responsible.readIntegers
  return [("id", .int id), ("name", draft.name), ("deviceType", draft.type),
    ("address", draft.address), ("responsible", .list (people.map .int)),
    ("createdAt", .moment now), ("updatedAt", .moment now)]

namespace DeviceChange

def field : DeviceChange → Except Failure (String × Datum)
  | name given => .ok ("name", given)
  | type given => .ok ("deviceType", given)
  | address given => .ok ("address", given)
  | responsible given => do
    let people ← given.readIntegers
    return ("responsible", .list (people.map .int))
  | unknown field => .error (.unknownField field)

/-- The fields that changes set; the first change that cannot be made tells why. -/
def fields (changes : List DeviceChange) : Except Failure (List (String × Datum)) :=
  changes.mapM field

end DeviceChange

/-! ### Tags -/

namespace Tag

def ofDocument (d : Document) : Except Failure Tag := do
  let id ← d.needInteger "id"
  let deviceId ← d.integer "deviceId"
  let index ← d.integer "arrayIndex"
  let condition : Condition :=
    ⟨d.given "regexp", d.given "compareType", .text (d.given "value").plain, .int index⟩
  return ⟨.int id, .int deviceId, d.given "name", condition, d.given "subject",
    d.given "severityLevel", d.optional "createdAt", d.optional "updatedAt"⟩

end Tag

/-- The document of a new tag. -/
def TagDraft.document (draft : TagDraft) (id : Int) (now : Moment) : Except Failure Document := do
  let deviceId ← draft.deviceId.readInteger
  let index ← draft.condition.arrayIndex.readInteger
  return [("id", .int id), ("deviceId", .int deviceId), ("name", draft.name),
    ("regexp", draft.condition.regexp), ("compareType", draft.condition.compareType),
    ("value", draft.condition.value), ("arrayIndex", .int index), ("subject", draft.subject),
    ("severityLevel", draft.severity), ("createdAt", .moment now),
    ("updatedAt", .moment now)]

namespace TagChange

def field : TagChange → Except Failure (String × Datum)
  | deviceId given => .ok ("deviceId", given)
  | name given => .ok ("name", given)
  | regexp given => .ok ("regexp", given)
  | compareType given => .ok ("compareType", given)
  | value given => .ok ("value", given)
  | arrayIndex given => .ok ("arrayIndex", given)
  | subject given => .ok ("subject", given)
  | severity given => .ok ("severityLevel", given)
  | unknown field => .error (.unknownField field)

/-- The fields that changes set; the first change that cannot be made tells why. -/
def fields (changes : List TagChange) : Except Failure (List (String × Datum)) :=
  changes.mapM field

end TagChange

/-! ### Messages -/

namespace Message

/-- The fields of a message; any other value has none. -/
def fieldsOf : Datum → Except Failure Document
  | .record fields => .ok fields
  | other => .error (.noFields other.kind)

def ofDocument (d : Document) : Except Failure Message := do
  let deviceId ← d.integer "deviceId"
  let received ← d.need "gotAt"
  return ⟨.int deviceId, d.given "message", d.given "messageType", d.given "severityLevel",
    d.given "component", received⟩

def document (m : Message) : Except Failure Document := do
  let deviceId ← m.deviceId.readInteger
  return [("deviceId", .int deviceId), ("message", m.text), ("messageType", m.type),
    ("severityLevel", m.severity), ("component", m.component), ("gotAt", m.received)]

end Message

end DeviceAlerts
