import DeviceAlerts.Datum.Order
import DeviceAlerts.Mongo.Call

/-! The connection to the database from its beginning to its end. -/

namespace DeviceAlerts.Mongo

/-- Why a connection cannot be made use of. -/
inductive StartFault
  | fault (cause : Fault)
  | unanswered
  deriving DecidableEq

def StartFault.message : StartFault → String
  | fault cause => cause.message
  | unanswered =>
    "Mongo connectivity check failed during startup. Verify BACKEND_MONGO_URI."

/-- The least time that a ping is given, in milliseconds. -/
def leastPing : Int := 250

def defaultPing : Datum := .int 1500

/-- The time that a ping is given, without fractions. -/
def pingTime? (given : Datum) : Option Int := do
  let isMore ← (given.stands .above (.int leastPing)).toOption
  (if isMore then given else .int leastPing).toInteger.toOption

/-- Whether the database answers; it is connected to if need be. -/
def ping (uri : String) (millis : Datum) : Program mongo Bool := do
  match ← reach uri none with
  | .error fault =>
    tellOne (.pingFailed fault.isDriver)
    return false
  | .ok () =>
    match pingTime? millis with
    | none =>
      tellOne (.pingFailed false)
      return false
    | some time =>
      match ← drive (.ping time) none with
      | .error fault =>
        tellOne (.pingFailed fault.isDriver)
        return false
      | .ok _ => return true

/-- Creates indexes until one cannot be created. -/
def createIndexes : List Index → Program mongo (Except Fault Unit)
  | [] => return .ok ()
  | index :: rest => do
    match ← drive (.createIndex index) none with
    | .error fault => return .error fault
    | .ok _ => createIndexes rest

/-- Connects, asks for an answer and creates the indexes. -/
def start (uri : String) : Program mongo (Except StartFault Unit) := do
  match ← reach uri none with
  | .error fault => return .error (.fault fault)
  | .ok () =>
    if ← ping uri defaultPing then
      match ← reach uri none with
      | .error fault => return .error (.fault fault)
      | .ok () => return (← createIndexes Index.all).mapError .fault
    else return .error .unanswered

/-- Gives the connection up, also when it cannot be closed. -/
def close : Program mongo Unit := do
  let isConnected : Bool ← ask .isConnected
  if isConnected then
    match ← drive .disconnect none with
    | .error _ => tellOne .closingFailed
    | .ok _ => return ()

end DeviceAlerts.Mongo
