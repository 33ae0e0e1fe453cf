import DeviceAlerts.Cache
import DeviceAlerts.Directory
import DeviceAlerts.Program
import DeviceAlerts.Rule.Book
import DeviceAlerts.Store.Call

/-! What the monitor asks its surroundings for: the store, the two caches that are kept of it, the
clock, the devices themselves, and those who are to be told. -/

namespace DeviceAlerts

open DeviceAlerts.Time

namespace Monitor

/-- What came of asking a device for its health. -/
inductive Probe
  | status (code : Int)
  | unreachable
  | broke
  deriving DecidableEq

inductive Call
  | store (call : Store.Call)
  | rules (call : Cache.Call Book)
  | devices (call : Cache.Call Directory)
  | now
  | tell (notices : List Notice)
  | alert (device : Device) (outcome : Outcome)
  | probe (address : String)

/-- A store call may fail; an alert is delivered or not. -/
@[reducible] def Call.Answer : Call → Type
  | store call => Except Failure call.Answer
  | rules call => call.Answer
  | devices call => call.Answer
  | now => Moment
  | tell _ => Unit
  | alert _ _ => Bool
  | probe _ => Probe

end Monitor

abbrev monitor : Interface := ⟨Monitor.Call, Monitor.Call.Answer⟩

/-- An activity of the monitor. -/
abbrev Activity (α : Type) := Program monitor α

namespace Monitor

def ask (c : Call) : Activity c.Answer := Program.call (I := monitor) c

def askStore (c : Store.Call) : Activity (Except Failure c.Answer) := ask (.store c)

def readBook : Activity Book := ask (.rules .read)

def readDirectory : Activity Directory := ask (.devices .read)

def tell (notices : List Notice) : Activity Unit := ask (.tell notices)

def tellOne (n : Notice) : Activity Unit := tell [n]

end Monitor

end DeviceAlerts
