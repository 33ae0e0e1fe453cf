import DeviceAlerts.Form
import DeviceAlerts.Simulation.World
import DeviceAlerts.Web.Handler

/-! Runs of the monitor in simulated surroundings, step by step. -/

namespace DeviceAlerts.Simulation

open DeviceAlerts.Monitor DeviceAlerts.Time

/-- What a step comes to. -/
inductive Reply
  | store (call : Store.Call) (answer : call.Answer)
  | book (b : Book)
  | directory (d : Directory)
  | nothing
  | outcome (o : Outcome)
  /-- Tells in `same` whether the message was left as it is. -/
  | classified (o : Outcome) (same : Bool)
  | deviceId (id : Option Datum)
  | device (d : Device)
  | rules (found : Option (List Rule))
  | found (d : Option Device)
  | addresses (all : List Datum)
  | texts (ts : List String)
  | alerts (all : List (Device × Outcome))
  | number (n : Int)
  | tagId (id : Datum)
  | transition (t : Option Transition)
  | published (isPublished isCurrent : Bool)
  | report (r : MonthReport)
  | checker (started : Bool)
  | stopped (done : Option Bool)
  | response (r : Web.Response)
  | failure (f : Failure)

def Reply.ofExcept {α : Type} (f : α → Reply) : Except Failure α → Reply
  | .ok a => f a
  | .error f => .failure f

namespace World

variable (nested : Nested)

/-- Whether an outcome carries the message as it was given. -/
def keepsMessage (w : World) (o : Outcome) : Bool :=
  !o.notify || (w.rules.snapshot.groups.values.flatten.find? fun r => r.tag.id == o.tagId).all
    fun r => !r.tag.severity.isTruthy

/-- Goes on with a value under which something can be looked up. -/
def onKey (w : World) (given : Datum) (next : Datum → Reply) : Reply × World :=
  match given.asKey with
  | .ok key => (next key, w)
  | .error fault => (.failure (.misuse fault), w)

def refresh (w : World) : Part → Reply × World
  | .rules => (w.run nested refreshRules).map (Reply.ofExcept .book) id
  | .devices => (w.run nested refreshDevices).map (Reply.ofExcept .directory) id

/-- Builds a snapshot and keeps it; answers its ticket. -/
def prepare (w : World) (part : Part) (slot : String) : Reply × World :=
  let keep (ticket : Int) (prepared : Prepared) (w : World) : Reply × World :=
    (.number ticket, { w with prepared := w.prepared.set slot prepared })
  match part with
  | .rules =>
    match w.run nested prepareRules with
    | (.ok (ticket, book), w) => keep ticket (.rules ticket book) w
    | (.error failure, w) => (.failure failure, w)
  | .devices =>
    match w.run nested prepareDevices with
    | (.ok (ticket, directory), w) => keep ticket (.devices ticket directory) w
    | (.error failure, w) => (.failure failure, w)

/-- Publishes a snapshot that was kept. -/
def publish (w : World) (slot : String) : Reply × World :=
  match w.prepared.get? slot with
  | none => (.failure (.missingKey slot), w)
  | some (.rules ticket book) =>
    let (result, rules) := w.rules.publish ticket book
    (.published result.2 result.2, { w with rules })
  | some (.devices ticket directory) =>
    let (result, devices) := w.directory.publish ticket directory
    (.published result.2 result.2, { w with directory := devices })

/-- Sweeps until `stopAt` devices were asked; a sweep is not broken off. -/
def sweepUntil (stopAt : Nat) : Nat → World → World
  | 0, w => w
  | fuel + 1, w =>
    if stopAt ≤ w.probed.length then w else sweepUntil stopAt fuel (w.run nested sweep).2

/-- Keeps a rule of a device; an index may count from the end. -/
def hold (w : World) (slot : String) (rules : List Rule) (index : Int) : Reply × World :=
  let place := if index < 0 then index + rules.length else index
  match if place < 0 then none else rules[place.toNat]? with
  | none => (.failure .noIndex, w)
  | some rule => (.tagId rule.tag.id, { w with held := w.held.set slot rule })

def advance (w : World) (seconds : Datum) : Reply × World :=
  match seconds.toSpan .seconds with
  | .error fault => (.failure (.span fault), w)
  | .ok micros =>
    match w.clock.add micros with
    | .error .outOfRange => (.failure .dateOutOfRange, w)
    | .ok clock => (.nothing, { w with clock })

/-- What a step does that is free to be taken. -/
def stepFreely (w : World) : Step → Reply × World
  | .misread failure => (.failure failure, w)
  | .store call => (w.run nested (askStore call)).map (Reply.ofExcept (.store call)) id
  | .insert message =>
    let call := Store.Call.insertMessage (message w.clock)
    (w.run nested (askStore call)).map (Reply.ofExcept (.store call)) id
  | .refresh part => w.refresh nested part
  | .loadAll => (w.run nested loadAll).map (fun _ => .nothing) id
  | .classify message =>
    (w.run nested (Monitor.classify (message w.clock))).map
      (Reply.ofExcept fun outcome => .classified outcome (w.keepsMessage outcome)) id
  | .ingest form =>
    match Form.readSubmission form with
    | .flawed flaws => (.failure (.malformed flaws), w)
    | .sound s => (w.run nested (Monitor.ingest s)).map (Reply.ofExcept .outcome) id
  | .resolve address => w.onKey address fun key => .deviceId (w.directory.snapshot.resolve? key)
  | .describe id => w.onKey id fun key => .device (w.directory.snapshot.describe key)
  | .rulesOf deviceId => w.onKey deviceId fun key => .rules (w.rules.snapshot.find? key)
  | .findDevice id => w.onKey id fun key => .found (w.directory.snapshot.find? key)
  | .addresses => (.addresses w.directory.snapshot.addresses, w)
  | .alerts => (.alerts w.alerts, w)
  | .failAlerts on => (.nothing, { w with alertsFail := on })
  | .hold slot deviceId index =>
    match deviceId.asKey with
    | .error fault => (.failure (.misuse fault), w)
    | .ok key => w.hold slot (w.rules.snapshot.rulesOf key) index
  | .handle slot =>
    match w.held.get? slot with
    | none => (.failure (.missingKey slot), w)
    | some rule => (w.run nested (Monitor.handle rule)).map .transition id
  | .prepare part slot => w.prepare nested part slot
  | .publish slot => w.publish slot
  | .advance seconds => w.advance seconds
  | .monthReport days minimum stop =>
    (w.run nested (Monitor.monthReport days minimum stop)).map (Reply.ofExcept .report) id
  | .sweep probes =>
    ({ w with probes, urlOf := plainUrl }.run nested Monitor.sweep).map
      (fun n : Nat => .number n) id
  | .checker stopAt probes =>
    let after := sweepUntil nested stopAt stopAt { w with probes, probed := [], urlOf := normalUrl }
    (.texts after.probed, after)
  | .startUp =>
    let after := (w.run nested loadAll).2
    (.checker w.checkerEnabled, { after with checkerStarted := w.checkerEnabled })
  | .shutDown => (.stopped (if w.checkerStarted then some true else none), w)
  | .disturb kind reads writes between =>
    (.nothing, { w with troubles := w.troubles.set kind ⟨reads, writes, between⟩ })
  | .request (.error fault) => (.failure (.noAddress fault.message), w)
  | .request (.ok r) => (w.run nested (Web.respond w.site r)).map .response id

/-- Only one exclusive step can be under way. -/
def stepWith (w : World) (step : Step) : Reply × World :=
  if step.isExclusive then
    if w.isBusy then (.failure (.crash "This event loop is already running"), w)
    else
      let (reply, after) := { w with isBusy := true }.stepFreely nested step
      (reply, { after with isBusy := false })
  else w.stepFreely nested step

/-- Runs steps until one fails, in the way that `step` runs one. -/
def runUntilFailure (step : Step → World → Reply × World) :
    List Step → World → Except Failure Unit × World
  | [], w => (.ok (), w)
  | s :: rest, w =>
    match step s w with
    | (.failure failure, w) => (.error failure, w)
    | (_, w) => runUntilFailure step rest w

/-- Runs steps whose replies nobody asks for; `fuel` bounds how deep they overtake one another. -/
def runNested : Nat → Nested
  | 0, _, w => (.ok (), w)
  | fuel + 1, steps, w =>
    runUntilFailure (fun step w => w.stepWith (runNested fuel) step) steps w

end World

/-- A reply with the notices of its step and the world after it. -/
structure Frame where
  reply : Reply
  notices : List Notice
  world : World

def runWith (fuel : Nat) : List Step → World → List Frame
  | [], _ => []
  | step :: rest, w =>
    let (reply, w) := { w with notices := [] }.stepWith (World.runNested fuel) step
    ⟨reply, w.notices, w⟩ :: runWith fuel rest w

/-- Runs the steps one after the other. -/
def run (steps : List Step) (w : World) : List Frame :=
  runWith (Step.totalDisturbances steps + 1) steps w

end DeviceAlerts.Simulation
