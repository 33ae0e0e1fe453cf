import DeviceAlerts.Datum.Order
import DeviceAlerts.Mongo.Document
import DeviceAlerts.Sorting
import DeviceAlerts.Store.Call

/-! What the database counted for each device, type, day and component, and the daily volumes that
come of it once the components of a day are put together. -/

namespace DeviceAlerts.Mongo

open DeviceAlerts.Time

/-- A day of one kind of message from one device; days are in the order of their texts. -/
structure Bucket where
  deviceId : Int
  type : Datum
  day : Datum
  deriving DecidableEq

/-- What the rows of a bucket amount to. -/
structure Tally where
  total : Int
  critical : Int
  components : Table Datum Int
  firstCritical : Datum
  lastCritical : Datum
  deriving DecidableEq

namespace Bucket

instance : BEq Bucket :=
  ⟨fun a b => a.deviceId == b.deviceId && a.type == b.type && a.day == b.day⟩

/-- The fields of the key that rows are grouped by. -/
def keyOf (d : Document) : Except Failure Document := do
  Document.ofDatum (← d.need "_id")

def ofKey (key : Document) : Except Failure Bucket := do
  let deviceId ← key.needInteger "deviceId"
  let type ← key.need "messageType"
  let day ← key.need "day"
  return ⟨deviceId, ← type.asKey.mapError .misuse, ← day.asKey.mapError .misuse⟩

/-- By device, then by type, then by day. -/
def below (a b : Bucket) : Except Datum.Misuse Bool :=
  Datum.keyBelow [.int a.deviceId, a.type, a.day] [.int b.deviceId, b.type, b.day]

def date (b : Bucket) : Except Failure Date :=
  match b.day with
  | .text day => (readDay day).mapError .noMoment
  | _ => .error .notDayText

def volume (b : Bucket) (t : Tally) : Except Failure DailyVolume := do
  let date ← b.date
  return ⟨.int b.deviceId, b.type, date, t.total, t.critical, t.components, t.firstCritical,
    t.lastCritical⟩

end Bucket

namespace Tally

def empty : Tally := ⟨0, 0, [], .null, .null⟩

/-- Of an old extreme and a new value the one that is further out; empty values do not count. -/
def extreme (isGreatest : Bool) (old new : Datum) : Except Failure Datum := do
  let values := [old, new].filter Datum.isTruthy
  let found ← (if isGreatest then Datum.greatest? values else Datum.least? values).mapError .misuse
  match found with
  | some d => return d
  | none => throw (.noExtreme isGreatest)

/-- Counts the messages of a component; what has no component is left out. -/
def addComponent (components : Table Datum Int) (component : Datum) (total : Int) :
    Except Failure (Table Datum Int) := do
  if component.isTruthy then
    let key ← component.asKey.mapError .misuse
    return components.modify key fun n => n.getD 0 + total
  else return components

/-- Adds a row of the database, which stands for the messages of one component. -/
def add (t : Tally) (component : Datum) (d : Document) : Except Failure Tally := do
  let total ← d.needInteger "total"
  let critical ← d.needInteger "critical"
  let components ← addComponent t.components component total
  let first := d.optional "firstCritical"
  let firstCritical ← if first = .null then pure t.firstCritical
    else extreme false t.firstCritical first
  let last := d.optional "lastCritical"
  let lastCritical ← if last = .null then pure t.lastCritical
    else extreme true t.lastCritical last
  return ⟨t.total + total, t.critical + critical, components, firstCritical, lastCritical⟩

end Tally

/-- Adds a row to the tally of its bucket. -/
def addRow (table : Table Bucket Tally) (row : Datum) : Except Failure (Table Bucket Tally) := do
  let d ← Document.ofDatum row
  let key ← Bucket.keyOf d
  let bucket ← Bucket.ofKey key
  let tally ← ((table.get? bucket).getD .empty).add (key.optional "component") d
  return table.set bucket tally

/-- The volumes that rows of the database amount to, whatever the order of the rows. -/
def dailyVolumes (rows : List Datum) : Except Failure (List DailyVolume) := do
  let table ← rows.foldlM addRow []
  let sorted ← (Sorting.ascending (fun a b => a.1.below b.1) table).mapError .misuse
  sorted.mapM fun (b, t) => Bucket.volume b t

end DeviceAlerts.Mongo
