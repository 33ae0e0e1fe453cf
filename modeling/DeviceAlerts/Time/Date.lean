/-! Days of the proleptic Gregorian calendar from year 1 to year 9999. A day is counted from the
first of January of year 1, which is day zero. -/

namespace DeviceAlerts.Time

structure Date where
  year : Nat
  month : Nat
  day : Nat
  deriving DecidableEq

def isLeap (year : Nat) : Bool := year % 4 == 0 && (year % 100 != 0 || year % 400 == 0)

def daysInMonth (year month : Nat) : Nat :=
  if month == 2 then (if isLeap year then 29 else 28)
  else if month == 4 || month == 6 || month == 9 || month == 11 then 30
  else 31

/-- The days of the years before `year`. -/
def daysBeforeYear (year : Nat) : Nat :=
  let y := year - 1
  y * 365 + y / 4 - y / 100 + y / 400

def daysBeforeMonth (year month : Nat) : Nat :=
  (List.range (month - 1)).foldl (fun days m => days + daysInMonth year (m + 1)) 0

/-- The number of days in the supported years. -/
def dayCount : Nat := daysBeforeYear 10000

namespace Date

def ordinal (d : Date) : Nat :=
  daysBeforeYear d.year + daysBeforeMonth d.year d.month + d.day - 1

/-- The month that holds the given day of a year, searched from `month` on. -/
def monthOf (year month day : Nat) : Nat → Nat × Nat
  | 0 => (month, day)
  | months + 1 =>
    if day < daysInMonth year month then (month, day)
    else monthOf year (month + 1) (day - daysInMonth year month) months

/-- The date of a day, found by whole cycles of 400, 100, 4 and 1 years; the last year of a
century and of four years is the long one of its cycle. -/
def ofOrdinal (n : Nat) : Date :=
  let a := n / 146097
  let n := n % 146097
  let b := min (n / 36524) 3
  let n := n - b * 36524
  let c := n / 1461
  let n := n % 1461
  let d := min (n / 365) 3
  let n := n - d * 365
  let year := a * 400 + b * 100 + c * 4 + d + 1
  let (month, day) := monthOf year 1 n 11
  ⟨year, month, day + 1⟩

inductive Fault
  | year (value : Nat)
  | month
  | day
  deriving DecidableEq

def Fault.message : Fault → String
  | year value => "year " ++ toString value ++ " is out of range"
  | month => "month must be in 1..12"
  | day => "day is out of range for month"

/-- The date, when it exists. -/
def make? (year month day : Nat) : Except Fault Date :=
  if year == 0 || 9999 < year then .error (.year year)
  else if month == 0 || 12 < month then .error .month
  else if day == 0 || daysInMonth year month < day then .error .day
  else .ok ⟨year, month, day⟩

/-- A number with at least `width` digits. -/
def padded (width n : Nat) : String :=
  let digits := Nat.toDigits 10 n
  String.ofList (List.replicate (width - digits.length) '0' ++ digits)

def text (d : Date) : String :=
  padded 4 d.year ++ "-" ++ padded 2 d.month ++ "-" ++ padded 2 d.day

/-- The Monday of the first week of a year: the week that holds the fourth of January. -/
def firstMonday (year : Nat) : Int :=
  let fourth := Int.ofNat (daysBeforeYear year) + 3
  fourth - fourth % 7

/-- The number of weeks that begin in a year, each counted to the year of its Thursday. -/
def weeksInYear (year : Nat) : Nat :=
  if year == 0 then 52 else ((firstMonday (year + 1) - firstMonday year) / 7).toNat

end Date

end DeviceAlerts.Time
