import DeviceAlerts.Number.Numeral
import DeviceAlerts.Text.Quoted
import DeviceAlerts.Time.Moment

/-! Reading ISO dates and clock readings, with separators or without. What cannot be told apart from
its form alone is decided by counting characters. -/

namespace DeviceAlerts.Time

open DeviceAlerts.Number

/-- Takes exactly `count` digits. -/
def takeDigits? (count : Nat) (cs : List Char) : Option (Nat × List Char) :=
  let digits := cs.take count
  if digits.length == count && digits.all isPlainDigit then
    some (digitsValue digits, cs.drop count)
  else none

def expect? (c : Char) : List Char → Option (List Char)
  | d :: rest => if c == d then some rest else none
  | [] => none

/-! ### Dates -/

/-- A day of a week of a year; it is the Monday when the date ends with the week. What follows is
left alone. -/
def readWeek? (dashed hasDay : Bool) (cs : List Char) : Option (Nat × Nat) := do
  let (week, rest) ← takeDigits? 2 cs
  if !hasDay then return (week, 1)
  let rest ← if dashed then expect? '-' rest else some rest
  let (day, _) ← takeDigits? 1 rest
  return (week, day)

/-- The date of a day of a week; the year zero has weeks, but no months to put them in. -/
def dateOfWeek? (year week day : Nat) : Option (Except Date.Fault Date) :=
  if week == 0 || Date.weeksInYear year < week || day == 0 || 7 < day then none
  else if year == 0 then some (.error .month)
  else
    let ordinal := (Date.firstMonday year).toNat + (week - 1) * 7 + (day - 1)
    if ordinal < dayCount then some (.ok (Date.ofOrdinal ordinal))
    else some (.error (.year (year + 1)))

/-- A month and a day of it. What follows is left alone. -/
def readMonth? (dashed : Bool) (cs : List Char) : Option (Nat × Nat) := do
  let (month, rest) ← takeDigits? 2 cs
  let rest ← if dashed then expect? '-' rest else some rest
  let (day, _) ← takeDigits? 2 rest
  some (month, day)

/-- A date of so many characters, with or without dashes, by month and day or by week and day; it
need not exist. -/
def readDate? (size : Nat) (cs : List Char) : Option (Except Date.Fault Date) := do
  let (year, rest) ← takeDigits? 4 cs
  let dashed := rest.head? == some '-'
  let rest := if dashed then rest.drop 1 else rest
  match rest with
  | 'W' :: rest =>
    let (week, day) ← readWeek? dashed ((if dashed then 8 else 7) < size) rest
    dateOfWeek? year week day
  | _ =>
    let (month, day) ← readMonth? dashed rest
    return Date.make? year month day

/-! ### Clock readings -/

/-- A reading of a clock, which need not be possible. -/
structure Reading where
  hour : Nat
  minute : Nat
  second : Nat
  micros : Nat

namespace Reading

/-- The microseconds since midnight. -/
def total (r : Reading) : Nat :=
  ((r.hour * 60 + r.minute) * 60 + r.second) * microsPerSecond + r.micros

def ofParts (parts : List Nat) (micros : Nat) : Reading :=
  ⟨parts.getD 0 0, parts.getD 1 0, parts.getD 2 0, micros⟩

end Reading

/-- Whether anything but the end follows. -/
def isLeft (cs : List Char) : Bool := cs.headD '\x00' != '\x00'

/-- Up to six decimals of a second out of `size` characters; further digits are skipped. Tells
whether anything follows. -/
def readFraction? (size : Nat) (cs : List Char) : Option (Nat × Bool) := do
  let count := min size 6
  let (value, rest) ← takeDigits? count cs
  return (value * powerOfTen (6 - count), isLeft (rest.dropWhile isPlainDigit))

/-- Hours, then optionally minutes and seconds, with colons or without, and decimals of the last of
them. Of the text, `size` characters belong to the reading; tells whether anything else follows. -/
def readParts? (separated : Option Bool) (done : List Nat) (size : Nat) (cs : List Char) :
    Nat → Option (Reading × Bool)
  | 0 => do
    let (micros, left) ← readFraction? size cs
    return (.ofParts done micros, left)
  | count + 1 => do
    let (part, rest) ← takeDigits? 2 cs
    let done := done ++ [part]
    let mark := rest.headD '\x00'
    let separated := separated.getD (mark == ':')
    if size ≤ 3 then return (.ofParts done 0, isLeft rest)
    else if separated && mark == ':' then
      readParts? (some separated) done (size - 3) (rest.drop 1) count
    else if mark == '.' || mark == ',' then
      let (micros, left) ← readFraction? (size - 3) (rest.drop 1)
      return (.ofParts done micros, left)
    else if separated then none
    else readParts? (some separated) done (size - 2) rest count

def readReading? (size : Nat) (cs : List Char) : Option (Reading × Bool) :=
  readParts? none [] size cs 3

def isZoneMark (c : Char) : Bool := c == '+' || c == '-' || c == 'Z'

/-- A clock reading, and how far its clock is ahead of UTC where that is told; less than a second
counts as nothing. -/
def readClock? (cs : List Char) : Option (Reading × Option Int) := do
  let size := cs.findIdx isZoneMark
  let (reading, left) ← readReading? size cs
  match cs.drop size with
  | [] => if left then none else some (reading, none)
  | 'Z' :: rest => if isLeft rest then none else some (reading, some 0)
  | sign :: rest =>
    let (ahead, left) ← readReading? rest.length rest
    let micros := if ahead.total < microsPerSecond then 0 else ahead.total
    if left then none
    else some (reading, some (if sign == '-' then -Int.ofNat micros else micros))

/-! ### Moments -/

/-- Why a text is no moment. -/
inductive MomentFault
  | malformed (given : String)
  | date (fault : Date.Fault)
  /-- The clock would be a day or more ahead of UTC or behind it. -/
  | offset (micros : Int)
  | hour
  | minute
  | second
  deriving DecidableEq

def MomentFault.message : MomentFault → String
  | malformed given => "Invalid isoformat string: " ++ Text.quote given
  | date fault => fault.message
  | offset micros => "offset must be a timedelta strictly between -timedelta(hours=24) and " ++
      "timedelta(hours=24), not " ++ spanText micros ++ "."
  | hour => "hour must be in 0..23"
  | minute => "minute must be in 0..59"
  | second => "second must be in 0..59"

/-- How many characters the date at the beginning of a text has. Where a week is followed by a dash
or by digits it is not clear what they are; an even number of digits is taken for a clock
reading. -/
def dateSize (cs : List Char) : Nat :=
  let digitAt (i : Nat) : Bool := cs[i]?.any isPlainDigit
  if cs.length == 7 then 7
  else if cs[4]? == some '-' then
    if cs[5]? != some 'W' then 10
    else if cs[8]? == some '-' && (cs.length == 9 || !digitAt 10) then 10
    else 8
  else if cs[4]? == some 'W' then
    let stop := 7 + ((cs.drop 7).takeWhile isPlainDigit).length
    if stop < 9 then stop else if stop % 2 == 0 then 7 else 8
  else 8

/-- The moment of a date and a clock reading, if there is one. -/
def momentOf (date : Except Date.Fault Date) (reading : Reading) (offset : Option Int) :
    Except MomentFault Moment := do
  if let some ahead := offset then
    if microsPerDay ≤ ahead.natAbs then throw (.offset ahead)
  let date ← date.mapError .date
  if 24 ≤ reading.hour then throw .hour
  if 60 ≤ reading.minute then throw .minute
  if 60 ≤ reading.second then throw .second
  return ⟨date.ordinal * microsPerDay + reading.total, offset⟩

/-- The parts of a moment: a date, or a date and a clock reading with one character between them. -/
def readMomentParts? (cs : List Char) :
    Option (Except Date.Fault Date × Reading × Option Int) := do
  let size := dateSize cs
  let date ← readDate? size cs
  match cs.drop size with
  | [] => return (date, ⟨0, 0, 0, 0⟩, none)
  | _ :: rest =>
    let (reading, offset) ← readClock? rest
    return (date, reading, offset)

def readMoment (s : String) : Except MomentFault Moment :=
  match readMomentParts? s.toList with
  | some (date, reading, offset) => momentOf date reading offset
  | none => .error (.malformed s)

/-- A date that stands alone; its form shows in the number of its bytes. -/
def readDay (s : String) : Except MomentFault Date :=
  let size := s.utf8ByteSize
  match if size == 7 || size == 8 || size == 10 then readDate? size s.toList else none with
  | some date => date.mapError .date
  | none => .error (.malformed s)

end DeviceAlerts.Time
