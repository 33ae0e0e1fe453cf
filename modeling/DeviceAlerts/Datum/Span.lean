import DeviceAlerts.Datum

/-! Spans of time that are given as a number of days or of seconds. -/

namespace DeviceAlerts

open DeviceAlerts.Number DeviceAlerts.Time

/-- The units in which spans are given. -/
inductive SpanUnit
  | days
  | seconds
  deriving DecidableEq

namespace SpanUnit

def name : SpanUnit → String
  | days => "days"
  | seconds => "seconds"

def micros : SpanUnit → Nat
  | days => microsPerDay
  | seconds => microsPerSecond

end SpanUnit

inductive SpanFault
  | number (fault : Datum.IntegerFault)
  | kind (unit : SpanUnit) (given : String)
  /-- The whole days of a span that is too long. -/
  | days (count : Int)
  deriving DecidableEq

/-- The greatest number of days that a span of time may have. -/
def greatestSpan : Int := 999999999

def SpanFault.message : SpanFault → String
  | number fault => fault.message
  | kind unit given => "unsupported type for timedelta " ++ unit.name ++ " component: " ++ given
  | days count =>
    if -2147483648 ≤ count ∧ count ≤ 2147483647 then
      "days=" ++ toString count ++ "; must have magnitude <= " ++ toString greatestSpan
    else "Python int too large to convert to C int"

/-- The microseconds of a number of units: the whole units exactly, and the rest by one
multiplication, to the nearest microsecond. -/
def spanOfFloat (unit : SpanUnit) (x : Binary64) (whole : Int) : Int :=
  let rest := (x.minusInteger whole).mul (.ofInt unit.micros)
  whole * unit.micros + (rest.timesToInt? 1).getD 0

/-- The microseconds of a span, which may not be longer than a span can be. -/
def checkedSpan (micros : Int) : Except SpanFault Int :=
  let days := micros / Int.ofNat microsPerDay
  if greatestSpan < days.natAbs then .error (.days days) else .ok micros

/-- The microseconds of a number of units. -/
def Datum.toSpan (unit : SpanUnit) (given : Datum) : Except SpanFault Int :=
  match given with
  | int i => checkedSpan (i * unit.micros)
  | bool b => checkedSpan (b.toNat * unit.micros)
  | float x =>
    match x.truncate? with
    | some whole => checkedSpan (spanOfFloat unit x whole)
    | none => .error (.number (if x.isNaN then .nan else .infinite))
  | other => .error (.kind unit other.kind)

end DeviceAlerts
