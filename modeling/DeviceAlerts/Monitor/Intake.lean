import DeviceAlerts.Monitor.Classify

/-! Taking in a message: it is attributed to a device, classified, stored and, when a tag matched,
passed on. -/

namespace DeviceAlerts.Monitor

open DeviceAlerts.Time

/-- A message as a device sends it. -/
structure Submission where
  text : String
  type : String
  component : String
  address : String
  deriving DecidableEq

/-- An alert that cannot be delivered is worth a notice. -/
def deliver (deviceId : Datum) (outcome : Outcome) : Activity Unit := do
  let directory ← readDirectory
  if !(← ask (.alert (directory.describe deviceId) outcome)) then
    tellOne (.notDelivered deviceId)

/-- The message that a submission becomes. -/
def Submission.message (s : Submission) (deviceId : Datum) (now : Moment) : Message :=
  ⟨deviceId, .text s.text, .text s.type, .text Message.plainSeverity, .text s.component,
    .moment now⟩

/-- Fails when the message cannot be classified or stored. -/
def ingest (s : Submission) : Activity (Except Failure Outcome) := do
  let directory ← readDirectory
  let deviceId := (directory.resolve? (.text s.address)).getD (.int Device.unknownId)
  let now ← ask .now
  match ← classify (s.message deviceId now) with
  | .error failure => return .error failure
  | .ok outcome =>
    match ← askStore (.insertMessage outcome.message) with
    | .error failure => return .error failure
    | .ok _ =>
      if outcome.notify then deliver deviceId outcome
      return .ok outcome

end DeviceAlerts.Monitor
