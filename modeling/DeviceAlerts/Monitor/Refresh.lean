import DeviceAlerts.Monitor.Call
import DeviceAlerts.Rule.Compilation

/-! Rebuilding the caches. The ticket is taken before the store is read. A failure leaves the old
snapshot in place and its ticket unused. -/

namespace DeviceAlerts.Monitor

open DeviceAlerts.Time

/-- A ticket and the rules of the tags that the store held after it was taken. -/
def prepareRules : Activity (Except Failure (Int × Book)) := do
  let ticket ← ask (.rules .issue)
  match ← askStore .listTags with
  | .error failure => return .error failure
  | .ok tags =>
    let compiled := Compilation.ofTags tags
    tell compiled.notices
    match compiled.rules with
    | .error limit => return .error (.limit limit)
    | .ok rules =>
      let now : Moment ← ask .now
      return (Book.ofRules rules tags.length now).mapError .misuse |>.map fun book => (ticket, book)

/-- Answers the snapshot in place afterwards, which may be a newer one. -/
def refreshRules : Activity (Except Failure Book) := do
  match ← prepareRules with
  | .error failure => return .error failure
  | .ok (ticket, book) => return .ok (← ask (.rules (.publish ticket book))).1

def prepareDevices : Activity (Except Failure (Int × Directory)) := do
  let ticket ← ask (.devices .issue)
  match ← askStore .listDevices with
  | .error failure => return .error failure
  | .ok devices =>
    tell (Directory.notices devices)
    let now : Moment ← ask .now
    return (Directory.ofDevices devices now).mapError .misuse |>.map fun found => (ticket, found)

def refreshDevices : Activity (Except Failure Directory) := do
  match ← prepareDevices with
  | .error failure => return .error failure
  | .ok (ticket, directory) => return .ok (← ask (.devices (.publish ticket directory))).1

/-- Rebuilds the rules; a failure is no more than a notice. -/
def reloadRules (otherwise : Notice) : Activity Unit := do
  match ← refreshRules with
  | .error _ => tellOne otherwise
  | .ok _ => return

def reloadDevices (otherwise : Notice) : Activity Unit := do
  match ← refreshDevices with
  | .error _ => tellOne otherwise
  | .ok _ => return

/-- Loads both caches once. -/
def loadAll : Activity Unit := do
  reloadDevices (.notLoadedAtStart .devices)
  reloadRules (.notLoadedAtStart .rules)

end DeviceAlerts.Monitor
