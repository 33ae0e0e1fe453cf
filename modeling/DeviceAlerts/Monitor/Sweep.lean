import DeviceAlerts.Monitor.Intake

/-! Health sweeps: every known device is asked for its health, and what is wrong with it is taken
in as a message of its own. -/

namespace DeviceAlerts.Monitor

/-- What is wrong with a device. -/
inductive Problem
  | unreachable
  | notOk
  deriving DecidableEq

def Problem.text (address : String) : Problem → String
  | unreachable => "unable to connect to device " ++ address
  | notOk => "device " ++ address ++ " status is not OK"

/-- The message that reports a problem. -/
def Problem.submission (address : String) (p : Problem) : Submission :=
  ⟨p.text address, "error", "General", address⟩

/-- A problem has to be reported unless the device answers 200. -/
def Probe.problem? : Probe → Option Problem
  | status code => if code = 200 then none else some .notOk
  | unreachable => some .unreachable
  | broke => none

/-- A message needs an address to come from. -/
def report (address : Datum) (p : Problem) : Activity Unit := do
  match address with
  | .text place =>
    if place = "" then tellOne (.deviceNotChecked address)
    else
      match ← ingest (p.submission place) with
      | .error _ => tellOne (.deviceNotChecked address)
      | .ok _ => return
  | _ => tellOne (.deviceNotChecked address)

/-- Whether the device at an address has a problem; a probe that breaks says nothing. -/
def check (address : Datum) : Activity Bool := do
  let probe : Probe ← ask (.probe address.plain)
  if probe = .broke then tellOne (.deviceNotChecked address)
  match probe.problem? with
  | none => return false
  | some problem =>
    report address problem
    return true

/-- Checks the devices at the addresses one after the other and counts those with a problem. -/
def checkAll : List Datum → Activity Nat
  | [] => return 0
  | address :: rest => do
    let unhealthy ← check address
    let others ← checkAll rest
    return (if unhealthy then 1 else 0) + others

/-- A sweep over the devices that are known when it starts. -/
def sweep : Activity Nat := do
  checkAll (← readDirectory).addresses

end DeviceAlerts.Monitor
