import DeviceAlerts.Device
import DeviceAlerts.Message
import DeviceAlerts.Rule

/-! What operators are told: warnings and errors, each with its text. -/

namespace DeviceAlerts

open DeviceAlerts.Text

/-- The two parts of the store that are kept in memory. -/
inductive Part
  | devices
  | rules
  deriving DecidableEq

def Part.text : Part → String
  | devices => "devices"
  | rules => "rules"

inductive Notice
  | operandNotNumber (operand : Datum) (side : Side)
  | valueNotNumber (value : String) (side : Side)
  | tagSkipped (refusal : Refusal)
  | ruleBroke (tagId : Datum)
  | addressShared (address earlier later : Datum)
  | recoveryMissing (tagId deviceId : Datum)
  | recoveryNotDeleted (tagId deviceId : Datum)
  | recoveryNotCreated (tagId deviceId : Datum)
  | transitionNotLoaded
  | tagChangeNotLoaded
  | deviceChangeNotLoaded
  | notLoadedAtStart (part : Part)
  | notDelivered (deviceId : Datum)
  | deviceNotChecked (address : Datum)
  | storeUnavailable (method path : String) (reason : String)
  | alert (device : Device) (outcome : Outcome)
  | storedInMemoryOnly
  | pingFailed (byDriver : Bool)
  | closingFailed
  deriving DecidableEq

namespace Notice

def isError : Notice → Bool
  | operandNotNumber .. | valueNotNumber .. | addressShared .. | recoveryMissing .. | alert ..
  | storedInMemoryOnly => false
  | _ => true

def text : Notice → String
  | operandNotNumber operand side =>
    "Non-numeric operand " ++ operand.quoted ++ " for '" ++ (CompareType.threshold side).symbol ++
      "' comparison; it will never match"
  | valueNotNumber value side =>
    "Cannot parse extracted value " ++ quote value ++ " as a number for '" ++
      (CompareType.threshold side).symbol ++ "' comparison"
  | tagSkipped refusal => "Skipping tag that failed to compile: " ++ refusal.message
  | ruleBroke tagId => "Tag id=" ++ tagId.plain ++ " failed while evaluating a message"
  | addressShared address earlier later =>
    "Address " ++ address.plain ++ " is shared by devices " ++ earlier.plain ++ " and " ++
      later.plain ++ "; attributing it to " ++ later.plain
  | recoveryMissing tagId deviceId =>
    "Recovery tag id=" ++ tagId.plain ++ " was not in the store (device " ++ deviceId.plain ++ ")"
  | recoveryNotDeleted tagId deviceId =>
    "Failed deleting recovery tag id=" ++ tagId.plain ++ " device=" ++ deviceId.plain
  | recoveryNotCreated tagId deviceId =>
    "Failed creating recovery tag for tag id=" ++ tagId.plain ++ " device=" ++ deviceId.plain
  | transitionNotLoaded => "Rule cache refresh after hysteresis transition failed"
  | tagChangeNotLoaded => "Rule cache refresh failed after a tag change"
  | deviceChangeNotLoaded => "Device directory refresh failed after a device change"
  | notLoadedAtStart part => "Initial " ++ part.text ++ " refresh failed"
  | notDelivered deviceId => "Notification dispatch failed for device " ++ deviceId.plain
  | deviceNotChecked address => "Device check failed for address=" ++ address.plain
  | storeUnavailable method path reason =>
    "Store unavailable while handling " ++ method ++ " " ++ path ++ ": " ++ reason
  | alert device outcome =>
    "ALERT device=" ++ device.id.plain ++ " (" ++ device.name.plain ++ ") subject=" ++
      outcome.subject.quoted ++ " severity=" ++ outcome.message.severity.plain ++
      " responsible=" ++ (Datum.list device.responsible).quoted ++ " text=" ++ outcome.text.quoted
  | storedInMemoryOnly =>
    "Using in-memory stores; devices, tags and messages are lost on restart"
  | pingFailed byDriver =>
    "Mongo ping failed (" ++ (if byDriver then "PyMongoError" else "unexpected") ++ ")"
  | closingFailed => "Error closing app MongoClient"

def line (n : Notice) : String := (if n.isError then "ERROR " else "WARNING ") ++ n.text

end Notice

/-! ### Notices of a rule -/

/-- What the comparison of a condition gives rise to. -/
def Comparison.notices : Comparison → List Notice
  | .threshold side operand none => [.operandNotNumber operand side]
  | _ => []

/-- A broken rule and a value that is no number are worth a notice; `found` is what the rule
extracted from the text. -/
def Rule.notices (r : Rule) (found : Except Matcher.Breakdown (Option String)) : List Notice :=
  match found, r.matcher.comparison with
  | .error _, _ => [.ruleBroke r.tag.id]
  | .ok (some value), .threshold side _ _ =>
    if r.matcher.comparison.judge (.text value) = .unreadable then [.valueNotNumber value side]
    else []
  | _, _ => []

end DeviceAlerts
