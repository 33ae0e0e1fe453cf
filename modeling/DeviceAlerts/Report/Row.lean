import DeviceAlerts.Datum.Order
import DeviceAlerts.Form.Value
import DeviceAlerts.Number.Binary64
import DeviceAlerts.Store.Call

/-! One row of the month report: the volume of one kind of message from one device, summed up over
the days of a period. -/

namespace DeviceAlerts.Report

open DeviceAlerts.Form DeviceAlerts.Number DeviceAlerts.Time

/-- What is counted over the days of a period. -/
structure Figures where
  activeDays : Nat
  total : Int
  average : Binary64
  greatest : Int
  median : Binary64
  critical : Int
  greatestCritical : Int
  greatestComponents : Nat
  firstCritical : Datum
  lastCritical : Datum
  interval : Option Binary64
  percentage : Binary64
  deriving DecidableEq

/-- A row that nobody has checked and that has no rank yet. -/
structure Summary where
  deviceId : Datum
  name : Datum
  type : Datum
  mostActive : Datum
  figures : Figures
  deriving DecidableEq

/-- Rank one is the busiest. -/
structure Row where
  deviceId : Int
  name : String
  type : String
  mostActive : Option String
  figures : Figures
  rank : Nat
  deriving DecidableEq

/-! ### Figures -/

def greatest (xs : List Int) : Int := xs.foldl max (xs.headD 0)

/-- The middle value, or halfway between the two middle ones. -/
def median (xs : List Int) : Except OverflowFault Binary64 :=
  let sorted := xs.mergeSort (· ≤ ·)
  let half := sorted.length / 2
  if sorted.length % 2 = 1 then Binary64.ofIntChecked (sorted.getD half 0)
  else Binary64.ofQuotientChecked (sorted.getD (half - 1) 0 + sorted.getD half 0) 2

/-- The messages of every component over all days. -/
def componentTotals (days : List DailyVolume) : Table Datum Int :=
  (days.flatMap (·.components)).foldl
    (fun t row => t.modify row.1 fun n => n.getD 0 + row.2) []

/-- More messages come first, of equals the component that is first in order. -/
def busier (a b : Datum × Int) : Except Datum.Misuse Bool :=
  Datum.keyBelow [.int (-a.2), a.1] [.int (-b.2), b.1]

def busiest (best : Datum × Int) : Table Datum Int → Except Datum.Misuse Datum
  | [] => .ok best.1
  | row :: rest => do
    let isBusier ← busier row best
    busiest (if isBusier then row else best) rest

/-- The component with the most messages, or null. -/
def mostActive : Table Datum Int → Except Datum.Misuse Datum
  | [] => .ok .null
  | row :: rest => busiest row rest

/-- The seconds between two moments, which say both or neither where their clocks stand. -/
def secondsBetween (first last : Moment) : Except Failure Binary64 :=
  if first.isComparable last then
    .ok (.ofQuotient (last.instant - first.instant) microsPerSecond)
  else .error (.misuse .subtractedClocks)

/-- The mean number of seconds between the first and the last of several moments. -/
def interval? (first last : Datum) (count : Int) : Except Failure (Option Binary64) :=
  match first, last with
  | .moment first, .moment last =>
    if 1 < count then do
      let seconds ← secondsBetween first last
      let gaps ← (Binary64.ofIntChecked (count - 1)).mapError .arithmetic
      return some (seconds.div gaps)
    else .ok none
  | _, _ => .ok none

/-- The share of the critical messages in percent. -/
def percentage (critical total : Int) : Except OverflowFault Binary64 := do
  if total = 0 then return .zero
  let share := (Binary64.ofInt 100).mul (← Binary64.ofIntChecked critical)
  return (share.div (← Binary64.ofIntChecked total)).roundPlaces 2

def given (values : List Datum) : List Datum := values.filter fun d => d ≠ .null

def figures (days : List DailyVolume) : Except Failure Figures := do
  let totals := days.map (·.total)
  let total := sumCounts totals
  let critical := sumCounts (days.map (·.critical))
  let first ← (Datum.least? (given (days.map (·.firstCritical)))).mapError .misuse
  let last ← (Datum.greatest? (given (days.map (·.lastCritical)))).mapError .misuse
  let interval ← interval? (first.getD .null) (last.getD .null) critical
  let average ← (Binary64.ofQuotientChecked total days.length).mapError .arithmetic
  let median ← (median totals).mapError .arithmetic
  let percentage ← (percentage critical total).mapError .arithmetic
  return {
    activeDays := days.length
    total
    average := average.roundPlaces 2
    greatest := greatest totals
    median
    critical
    greatestCritical := greatest (days.map (·.critical))
    greatestComponents := (days.map (·.components.length)).foldl max 0
    firstCritical := first.getD .null
    lastCritical := last.getD .null
    interval
    percentage }

def summarize (deviceId name type : Datum) (days : List DailyVolume) : Except Failure Summary := do
  let mostActive ← (mostActive (componentTotals days)).mapError .misuse
  let figures ← figures days
  return { deviceId, name, type, mostActive, figures }

/-! ### Checks -/

/-- A count, which may not be negative. -/
def readCount (n : Int) : Checked Int := readBounded 0 none (.int n)

def checked {α : Type} (name : String) (read : Datum → Checked α) (d : Datum) : Checked α :=
  (read d).within (.text name)

/-- The row of a summary; all that is wrong with it is told. -/
def Summary.check (s : Summary) (rank : Nat) : Checked Row :=
  let count (name : String) (n : Int) : Checked Int := (readCount n).within (.text name)
  (fun deviceId name type _ _ _ _ mostActive =>
      Row.mk deviceId name type mostActive s.figures rank) <$>
    checked "device_id" readInteger s.deviceId <*> checked "name" readText s.name
    <*> checked "message_type" readText s.type <*> count "total_messages" s.figures.total
    <*> count "max_daily_messages" s.figures.greatest
    <*> count "total_critical" s.figures.critical
    <*> count "max_daily_critical" s.figures.greatestCritical
    <*> checked "most_active_component" (readOptional readText) s.mostActive

end DeviceAlerts.Report
