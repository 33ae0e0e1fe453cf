import DeviceAlerts.Datum.Order
import DeviceAlerts.Sorting
import DeviceAlerts.Store.Call

/-! Messages in memory, in the order of their arrival, and what is counted of them. -/

namespace DeviceAlerts.Store

open DeviceAlerts.Time

/-- How often each of several values comes. -/
def tally (values : List Datum) : Except Datum.Misuse (Table Datum Int) :=
  values.foldlM (fun t d => d.asKey.map fun key => t.modify key fun n => n.getD 0 + 1) []

namespace Query

/-- Whether a relation holds between a value and a bound, if there is one. -/
def within (r : Relation) (value : Datum) : Option Moment → Except Datum.Misuse Bool
  | none => .ok true
  | some bound => value.stands r (.moment bound)

def admits (q : Query) (m : Message) : Except Datum.Misuse Bool :=
  if q.deviceId = .null ∨ m.deviceId == q.deviceId then do
    if ← within .notBelow m.received q.start then within .notAbove m.received q.stop
    else return false
  else .ok false

/-- Whether a message came in before another. -/
def earlier (a b : Message) : Except Datum.Misuse Bool := a.received.stands .below b.received

/-- The newest messages that a query admits, older ones of the same instant first. -/
def select (q : Query) (messages : List Message) : Except Failure (List Message) := do
  let admitted ← (Sorting.keep q.admits messages).mapError .misuse
  let sorted ← (Sorting.descending earlier admitted).mapError .misuse
  let limit ← q.limit.readInteger
  return sorted.take limit.toNat

end Query

/-- How many messages of a type each device sent, by device. -/
def countByType (messages : List Message) (type : Datum) : Except Failure (List (Datum × Int)) :=
  Except.mapError .misuse do
    let counts ← tally ((messages.filter fun m => m.type == type).map (·.deviceId))
    Sorting.ascending (fun a b => Datum.keyBelow [a.1, .int a.2] [b.1, .int b.2]) counts

/-! ### Daily volumes -/

/-- A day of one kind of message from one device; the day is counted from year 1. -/
structure Bucket where
  deviceId : Datum
  type : Datum
  day : Nat
  deriving DecidableEq

namespace Bucket

instance : BEq Bucket :=
  ⟨fun a b => a.deviceId == b.deviceId && a.type == b.type && a.day == b.day⟩

/-- The day in UTC on which something was received. -/
def dayOf : Datum → Except Failure Nat
  | .moment m => m.utcDay.mapError fun _ => .dateOutOfRange
  | other => .error (.misuse (.incomparable Relation.notBelow.symbol other.kind other.kind))

def ofMessage (m : Message) : Except Failure Bucket := do
  let day ← dayOf m.received
  let deviceId ← m.deviceId.asKey.mapError .misuse
  let type ← m.type.asKey.mapError .misuse
  return ⟨deviceId, type, day⟩

/-- By device, then by type, then by day. -/
def below (a b : Bucket) : Except Datum.Misuse Bool :=
  Datum.keyBelow [a.deviceId, a.type, .int a.day] [b.deviceId, b.type, .int b.day]

def volume (b : Bucket) (messages : List Message) : Except Datum.Misuse DailyVolume := do
  let critical := (messages.filter fun m => m.severity == .text Message.criticalSeverity).map
    (·.received)
  let components ← tally ((messages.map (·.component)).filter Datum.isTruthy)
  let first ← Datum.least? critical
  let last ← Datum.greatest? critical
  return ⟨b.deviceId, b.type, Date.ofOrdinal b.day, messages.length, critical.length, components,
    first.getD .null, last.getD .null⟩

end Bucket

/-- Adds a message from an instant on to its bucket. -/
def addToBucket (since : Moment) (table : Table Bucket (List Message)) (m : Message) :
    Except Failure (Table Bucket (List Message)) := do
  if ← (m.received.stands .notBelow (.moment since)).mapError .misuse then
    let bucket ← Bucket.ofMessage m
    return table.modify bucket fun old => old.getD [] ++ [m]
  else return table

/-- The messages from an instant on, by bucket; fails when a message lies on a day that UTC does
not have. -/
def buckets (messages : List Message) (since : Moment) :
    Except Failure (Table Bucket (List Message)) :=
  messages.foldlM (addToBucket since) []

def dailyVolumes (messages : List Message) (since : Moment) :
    Except Failure (List DailyVolume) := do
  let table ← buckets messages since
  let sorted ← (Sorting.ascending (fun a b => a.1.below b.1) table).mapError .misuse
  (sorted.mapM fun (b, messages) => Bucket.volume b messages).mapError .misuse

end DeviceAlerts.Store
