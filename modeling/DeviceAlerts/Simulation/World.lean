import DeviceAlerts.Simulation.Step
import DeviceAlerts.Store
import DeviceAlerts.Web.Url

/-! Simulated surroundings of the monitor: a store in memory that can be disturbed, a clock that
stands still, devices that answer as told, and a record of all alerts and notices. -/

namespace DeviceAlerts.Simulation

open DeviceAlerts.Monitor DeviceAlerts.Time

/-- The disturbances of one kind of record. -/
structure Trouble where
  reads : Option Disturbance
  writes : Option Disturbance
  between : List Step

/-- A snapshot that is built but not published yet. -/
inductive Prepared
  | rules (ticket : Int) (book : Book)
  | devices (ticket : Int) (directory : Directory)

structure World where
  site : Web.Site
  checkerEnabled : Bool
  store : Store
  rules : Cache Book
  directory : Cache Directory
  clock : Moment
  alerts : List (Device × Outcome)
  notices : List Notice
  alertsFail : Bool
  troubles : Table Store.Kind Trouble
  held : Table String Rule
  prepared : Table String Prepared
  probes : Table String Probe
  probed : List String
  /-- The address at which a device is asked for its health, unless there is none. -/
  urlOf : String → Option String
  checkerStarted : Bool
  isBusy : Bool

namespace World

/-- What a device is asked for, after its address. -/
def healthPath : String := "/healthcheck"

def plainUrl (address : String) : Option String := some ("http://" ++ address ++ healthPath)

def normalUrl (address : String) : Option String :=
  (Web.Url.read ("http://" ++ address ++ healthPath).toList).toOption.map Web.Url.text

def start (site : Web.Site) (checkerEnabled : Bool) (clock : Moment) : World :=
  { site
    checkerEnabled
    store := .empty
    rules := .empty .empty
    directory := .empty .empty
    clock
    alerts := []
    notices := []
    alertsFail := false
    troubles := []
    held := []
    prepared := []
    probes := []
    probed := []
    urlOf := plainUrl
    checkerStarted := false
    isBusy := false }

def disturbance? (w : World) (c : Store.Call) : Option Disturbance :=
  (w.troubles.get? c.kind).bind fun t => if c.isRead then t.reads else t.writes

/-- The world without the disturbances of the records that a call is about. -/
def relieve (w : World) (c : Store.Call) : World :=
  { w with troubles := w.troubles.set c.kind ⟨none, none, []⟩ }

def between (w : World) (c : Store.Call) : List Step :=
  ((w.troubles.get? c.kind).map (·.between)).getD []

def performStore (w : World) (c : Store.Call) : Except Failure c.Answer × World :=
  let (answer, store) := w.store.perform w.clock c
  (answer, { w with store })

/-- Steps that are run in between; the first that fails is the last one. -/
abbrev Nested := List Step → World → Except Failure Unit × World

/-- Answers a store call; `nested` runs the steps that overtake it, and a step that fails takes the
place of the answer. -/
def answerStore (nested : Nested) (w : World) (c : Store.Call) : Except Failure c.Answer × World :=
  match w.disturbance? c with
  | none => w.performStore c
  | some .unavailable => (.error (.unavailable (c.name ++ " failed: timed out")), w)
  | some .refusal => (.error (.refused (c.name ++ " failed")), w)
  | some .crash => (.error (.crash "boom"), w)
  | some .overtaken =>
    match (w.relieve c).performStore c with
    | (.error failure, after) => (.error failure, after)
    | (.ok answer, after) =>
      let (result, after) := nested (w.between c) after
      (result.map fun _ => answer, after)

/-- Devices of which nothing is told are healthy. No use can be made of a status that comes from an
address without a host. -/
def answerProbe (w : World) (address : String) : Probe × World :=
  match w.urlOf address with
  | none => (.broke, w)
  | some url =>
    let probe := (w.probes.get? url).getD (.status 200)
    (if url.startsWith "/" && probe ≠ .unreachable then .broke else probe,
      { w with probed := w.probed ++ [url] })

/-- Answers a question of the monitor. -/
def answer (nested : Nested) : (c : Call) → World → c.Answer × World
  | .store c, w => w.answerStore nested c
  | .rules c, w =>
    let (answer, rules) := w.rules.perform c
    (answer, { w with rules })
  | .devices c, w =>
    let (answer, directory) := w.directory.perform c
    (answer, { w with directory })
  | .now, w => (w.clock, w)
  | .tell notices, w => ((), { w with notices := w.notices ++ notices })
  | .alert device outcome, w =>
    if w.alertsFail then (false, w)
    else (true, { w with alerts := w.alerts ++ [(device, outcome)] })
  | .probe address, w => w.answerProbe address

def run {α : Type} (nested : Nested) (w : World) (activity : Activity α) :
    α × World :=
  Program.run (I := monitor) (answer nested) activity w

end World

end DeviceAlerts.Simulation
