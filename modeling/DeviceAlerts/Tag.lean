import DeviceAlerts.Tag.Condition
import DeviceAlerts.Time.Moment

/-! Tags: the stored rules by which the messages of a device raise alerts. -/

namespace DeviceAlerts

open DeviceAlerts.Time

/-- A tag that is not stored yet. -/
structure TagDraft where
  deviceId : Datum
  name : Datum
  condition : Condition
  subject : Datum
  severity : Datum
  deriving DecidableEq

structure Tag where
  id : Datum
  deviceId : Datum
  name : Datum
  condition : Condition
  subject : Datum
  severity : Datum
  createdAt : Datum
  updatedAt : Datum
  deriving DecidableEq

/-- The tag that a draft becomes under a number. -/
def TagDraft.stored (d : TagDraft) (id : Int) (now : Moment) : Tag :=
  ⟨.int id, d.deviceId, d.name, d.condition, d.subject, d.severity, .moment now, .moment now⟩

namespace Tag

/-- The subject reserved for recovery tags. -/
def recoverySubject : String := "OK"

def recoverySeverity : String := "info"

def isRecovery (t : Tag) : Bool := t.subject == .text recoverySubject

/-- The recovery of a tag of the given type: the same match with the opposite comparison. -/
def recoveryOf (t : Tag) (type : CompareType) : TagDraft :=
  ⟨t.deviceId, t.name, t.condition.withType type.flipped, .text recoverySubject,
    .text recoverySeverity⟩

/-- Nothing for a tag whose comparison is unknown. -/
def recovery? (t : Tag) : Option TagDraft :=
  (CompareType.ofDatum? t.condition.compareType).map t.recoveryOf

/-- Whether a tag states the same of the same device under the same subject. -/
def agreesWith (t : Tag) (draft : TagDraft) : Bool :=
  t.deviceId == draft.deviceId && t.condition.alike draft.condition && t.subject == draft.subject

def draft (t : Tag) : TagDraft := ⟨t.deviceId, t.name, t.condition, t.subject, t.severity⟩

end Tag

/-- A change of one field. -/
inductive TagChange
  | deviceId (given : Datum)
  | name (given : Datum)
  | regexp (given : Datum)
  | compareType (given : Datum)
  | value (given : Datum)
  | arrayIndex (given : Datum)
  | subject (given : Datum)
  | severity (given : Datum)
  /-- The name of no field that can be changed. -/
  | unknown (field : String)
  deriving DecidableEq

namespace TagChange

def apply (t : Tag) : TagChange → Tag
  | deviceId given => { t with deviceId := given }
  | name given => { t with name := given }
  | regexp given => { t with condition := { t.condition with regexp := given } }
  | compareType given => { t with condition := { t.condition with compareType := given } }
  | value given => { t with condition := { t.condition with value := given } }
  | arrayIndex given => { t with condition := { t.condition with arrayIndex := given } }
  | subject given => { t with subject := given }
  | severity given => { t with severity := given }
  | unknown _ => t

def unknown? : TagChange → Option String
  | unknown field => some field
  | _ => none

/-- The changes of a list, one after the other. -/
def applyAll (t : Tag) (changes : List TagChange) : Tag := changes.foldl apply t

end TagChange

end DeviceAlerts
