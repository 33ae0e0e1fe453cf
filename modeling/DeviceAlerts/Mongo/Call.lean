import DeviceAlerts.Mongo.Request
import DeviceAlerts.Notice
import DeviceAlerts.Program

/-! What the store in the database asks its surroundings for: the database, through a driver that
may fail, the clock, and those who are to be told. -/

namespace DeviceAlerts

open DeviceAlerts.Number DeviceAlerts.Time

namespace Mongo

/-- The kinds of failures that the driver reports. -/
inductive FaultKind
  | general
  | reconnect
  | networkTimeout
  | configuration
  | operation
  /-- A document would share the key of a unique index with another. -/
  | duplicateKey
  deriving DecidableEq

inductive Fault
  | driver (kind : FaultKind) (reason : String)
  /-- Something broke that the driver does not report. -/
  | broken (reason : String)
  deriving DecidableEq

namespace Fault

def isDriver : Fault → Bool
  | driver _ _ => true
  | broken _ => false

def message : Fault → String
  | driver _ reason | broken reason => reason

/-- The failure of a store call that a fault leads to. -/
def failure (call : String) : Fault → Failure
  | driver .duplicateKey reason => .duplicateKey reason
  | driver _ reason => .unavailable (call ++ " failed: " ++ reason)
  | broken reason => .crash reason

end Fault

inductive Call
  | isConnected
  /-- A request, to be answered within so many seconds when a limit is given. -/
  | drive (request : Request) (limit : Option Binary64)
  | now
  | tell (notices : List Notice)

def Call.Answer : Call → Type
  | isConnected => Bool
  | drive request _ => Except Fault request.Answer
  | now => Moment
  | tell _ => Unit

end Mongo

def mongo : Interface := ⟨Mongo.Call, Mongo.Call.Answer⟩

namespace Mongo

def ask (c : Call) : Program mongo c.Answer := Program.call (I := mongo) c

def drive (request : Request) (limit : Option Binary64) :
    Program mongo (Except Fault request.Answer) :=
  ask (.drive request limit)

def tellOne (n : Notice) : Program mongo Unit := ask (.tell [n])

/-- Connects unless there is a connection. -/
def reach (uri : String) (limit : Option Binary64) : Program mongo (Except Fault Unit) := do
  let isConnected : Bool ← ask .isConnected
  if isConnected then return .ok () else drive (.connect uri) limit

end Mongo

end DeviceAlerts
