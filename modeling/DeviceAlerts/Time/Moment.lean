import DeviceAlerts.Time.Date

/-! Points in time with the offset they are written in. Moments are compared as instants; the
offset only decides how a moment is shown and which wall clock reading it has. A moment may leave
open where its clock stands; it is then taken as UTC, but never compared with one that says so. -/

namespace DeviceAlerts.Time

def microsPerSecond : Nat := 1000000

def microsPerDay : Nat := 86400 * microsPerSecond

/-- The reading `wall` of the local clock in microseconds since the beginning of year 1, and how
far the local clock is ahead of UTC, when that is known. -/
structure Moment where
  wall : Int
  offset : Option Int
  deriving DecidableEq

/-- A moment would lie outside the supported years. -/
inductive RangeFault
  | outOfRange
  deriving DecidableEq

namespace Moment

/-- The microseconds since the beginning of year 1 in UTC. -/
def instant (m : Moment) : Int := m.wall - m.offset.getD 0

/-- Whether it is known where the clock stands. -/
def isPlaced (m : Moment) : Bool := m.offset.isSome

/-- Only moments that both say where their clocks stand, or both do not, can be compared. -/
def isComparable (a b : Moment) : Bool := a.isPlaced == b.isPlaced

/-- The same instant in UTC, written without regard to the supported years. -/
def normal (m : Moment) : Moment := ⟨m.instant, m.offset.map fun _ => 0⟩

/-- Whether a clock reading lies in the supported years. -/
def inRange (wall : Int) : Bool := 0 ≤ wall && wall < Int.ofNat (dayCount * microsPerDay)

def make? (wall : Int) (offset : Option Int) : Except RangeFault Moment :=
  if inRange wall then .ok ⟨wall, offset⟩ else .error .outOfRange

/-- The same instant on a clock in UTC. -/
def toUtc (m : Moment) : Except RangeFault Moment := make? m.instant (some 0)

/-- The day that a moment falls on in UTC. -/
def utcDay (m : Moment) : Except RangeFault Nat :=
  m.toUtc.map fun u => (u.wall / Int.ofNat microsPerDay).toNat

def add (m : Moment) (micros : Int) : Except RangeFault Moment := make? (m.wall + micros) m.offset

end Moment

/-! ### Text -/

/-- Hours, minutes and, where they are not zero, seconds and microseconds. -/
def clockText (micros : Nat) (seconds : Bool) : String :=
  let second := micros / microsPerSecond
  let fraction := micros % microsPerSecond
  let hm := Date.padded 2 (second / 3600) ++ ":" ++ Date.padded 2 (second / 60 % 60)
  let s := if seconds || second % 60 != 0 || fraction != 0 then ":" ++ Date.padded 2 (second % 60)
    else ""
  let f := if fraction != 0 then "." ++ Date.padded 6 fraction else ""
  hm ++ s ++ f

def offsetText (offset : Int) : String :=
  (if offset < 0 then "-" else "+") ++ clockText offset.natAbs false

/-- An offset without seconds, as bodies have it. -/
def minuteOffsetText (offset : Int) : String :=
  let minutes := offset.natAbs / (60 * microsPerSecond)
  (if offset < 0 then "-" else "+") ++ Date.padded 2 (minutes / 60) ++ ":" ++
    Date.padded 2 (minutes % 60)

def wallText (separator : String) (wall : Int) : String :=
  let day := (wall / Int.ofNat microsPerDay).toNat
  let micros := (wall % Int.ofNat microsPerDay).toNat
  (Date.ofOrdinal day).text ++ separator ++ clockText micros true

/-- The length of a span in days, seconds and microseconds, those that are not zero. -/
def spanText (micros : Int) : String :=
  let days := micros / Int.ofNat microsPerDay
  let rest := micros % Int.ofNat microsPerDay
  let part (name : String) (n : Int) : List String :=
    if n = 0 then [] else [name ++ "=" ++ toString n]
  "datetime.timedelta(" ++ String.intercalate ", " (part "days" days ++
    part "seconds" (rest / Int.ofNat microsPerSecond) ++
    part "microseconds" (rest % Int.ofNat microsPerSecond)) ++ ")"

def zoneText (offset : Int) : String :=
  if offset = 0 then "datetime.timezone.utc" else "datetime.timezone(" ++ spanText offset ++ ")"

namespace Moment

/-- The ISO form, in which UTC has the offset `+00:00`. -/
def text (m : Moment) : String := wallText "T" m.wall ++ m.offset.elim "" offsetText

/-- The form of request and response bodies, in which UTC is `Z`. -/
def bodyText (m : Moment) : String :=
  wallText "T" m.wall ++ m.offset.elim "" fun o => if o = 0 then "Z" else minuteOffsetText o

/-- The form with a blank between date and time. -/
def spacedText (m : Moment) : String := wallText " " m.wall ++ m.offset.elim "" offsetText

/-- The form in which all parts are listed; seconds and microseconds may be left out at the end. -/
def listedText (m : Moment) : String :=
  let date := Date.ofOrdinal (m.wall / Int.ofNat microsPerDay).toNat
  let micros := (m.wall % Int.ofNat microsPerDay).toNat
  let second := micros / microsPerSecond
  let fraction := micros % microsPerSecond
  let fine := if fraction ≠ 0 then [second % 60, fraction]
    else if second % 60 ≠ 0 then [second % 60]
    else []
  let parts := [date.year, date.month, date.day, second / 3600, second / 60 % 60] ++ fine
  "datetime.datetime(" ++ String.intercalate ", " (parts.map toString) ++
    m.offset.elim "" (fun o => ", tzinfo=" ++ zoneText o) ++ ")"

end Moment

end DeviceAlerts.Time
