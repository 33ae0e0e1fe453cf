import DeviceAlerts.Datum

/-! Messages of devices and what became of them. Nobody checks the fields of a message that is
handed in. -/

namespace DeviceAlerts

structure Message where
  deviceId : Datum
  text : Datum
  type : Datum
  severity : Datum
  component : Datum
  received : Datum
  deriving DecidableEq

/-- The severity of messages that no tag matched. -/
def Message.plainSeverity : String := "info"

def Message.criticalSeverity : String := "critical"

/-- What was done about the recovery tag of a threshold tag that won. -/
inductive Transition
  | created
  | deleted
  | alreadyArmed
  | alreadyCleared
  | failed
  deriving DecidableEq

def Transition.text : Transition → String
  | created => "recovery_created"
  | deleted => "recovery_deleted"
  | alreadyArmed => "recovery_exists"
  | alreadyCleared => "recovery_gone"
  | failed => "failed"

/-- The verdict on a message: whether to send an alert, and on account of which tag. -/
structure Outcome where
  message : Message
  notify : Bool
  subject : Datum
  text : Datum
  tagId : Datum
  transition : Option Transition
  deriving DecidableEq

/-- The verdict when no tag matched. -/
def Outcome.quiet (m : Message) : Outcome := ⟨m, false, .text "", .text "", .null, none⟩

end DeviceAlerts
