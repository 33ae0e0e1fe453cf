import DeviceAlerts.Monitor.Sweep
import DeviceAlerts.Web.Request

/-! Steps of a simulation: what happens to the monitor, from within or from outside. -/

namespace DeviceAlerts.Simulation

open DeviceAlerts.Monitor DeviceAlerts.Time

/-- What is wrong with the reading or writing calls of one kind of record. -/
inductive Disturbance
  | unavailable
  | refusal
  | crash
  /-- The next call is carried out, but other steps are run before its answer arrives. -/
  | overtaken
  deriving DecidableEq

inductive Step
  /-- A step that is told in a way that cannot be understood. -/
  | misread (failure : Failure)
  | store (call : Store.Call)
  /-- A message that is stored as it is; it is received now unless it says otherwise. -/
  | insert (message : Moment → Message)
  | refresh (part : Part)
  | loadAll
  | classify (message : Moment → Message)
  | ingest (form : Datum)
  | resolve (address : Datum)
  | describe (id : Datum)
  | rulesOf (deviceId : Datum)
  | findDevice (id : Datum)
  | addresses
  | alerts
  | failAlerts (on : Bool)
  | hold (slot : String) (deviceId : Datum) (index : Int)
  | handle (slot : String)
  | prepare (part : Part) (slot : String)
  | publish (slot : String)
  | advance (seconds : Datum)
  | monthReport (days minimum : Datum) (stop : Option Moment)
  | sweep (probes : Table String Probe)
  | checker (stopAt : Nat) (probes : Table String Probe)
  | startUp
  | shutDown
  | disturb (kind : Store.Kind) (reads writes : Option Disturbance) (between : List Step)
  /-- A request, unless its address is none. -/
  | request (r : Except Web.UrlFault Web.Request)

/-- Whether a step keeps its surroundings busy, so that no other such step can be taken before it
is over. -/
def Step.isExclusive : Step → Bool
  | sweep _ | checker _ _ | startUp | shutDown | request (.ok _) => true
  | _ => false

mutual
/-- How many disturbances a step may set, with those that are set by the steps in between. -/
def Step.disturbances : Step → Nat
  | disturb _ _ _ between => 1 + Step.totalDisturbances between
  | _ => 0

def Step.totalDisturbances : List Step → Nat
  | [] => 0
  | step :: rest => step.disturbances + Step.totalDisturbances rest
end

end DeviceAlerts.Simulation
