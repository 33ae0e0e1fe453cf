import DeviceAlerts.Form.Checked
import DeviceAlerts.Time.Iso

/-! Reading points in time from queries: a date, a date with a clock reading, or a number of
seconds since 1970, which is taken as milliseconds when it is large. -/

namespace DeviceAlerts.Form

open DeviceAlerts.Number DeviceAlerts.Time

/-- Why a text is no point in time. -/
inductive InstantFault
  | short
  | yearCharacter
  | separator
  | monthCharacter
  | dayCharacter
  | month
  | day
  | rest
  | early
  | late
  deriving DecidableEq

def InstantFault.text : InstantFault → String
  | short => "input is too short"
  | yearCharacter => "invalid character in year"
  | separator => "invalid date separator, expected `-`"
  | monthCharacter => "invalid character in month"
  | dayCharacter => "invalid character in day"
  | month => "month value is outside expected range of 1-12"
  | day => "day value is outside expected range"
  | rest => "unexpected extra characters at the end of the input"
  | early => "dates before 0000 are not supported as unix timestamps"
  | late => "dates after 9999 are not supported as unix timestamps"

/-! ### Dates and clock readings -/

/-- The bytes of a text, each as the character of its number. -/
def bytesOf (s : String) : List Char := s.toUTF8.toList.map fun b => Char.ofNat b.toNat

/-- The days of a date since the beginning of year 1; here there is a year zero too, a long one. -/
def dayNumber (year month day : Nat) : Int :=
  if year = 0 then Int.ofNat (daysBeforeMonth 0 month + day) - 367
  else Int.ofNat (⟨year, month, day⟩ : Date).ordinal

/-- A date of ten characters and what follows it. -/
def readDatePart (cs : List Char) : Except InstantFault (Int × List Char) :=
  if cs.length < 10 then .error .short
  else
    match takeDigits? 4 cs with
    | none => .error .yearCharacter
    | some (year, cs) =>
      match expect? '-' cs with
      | none => .error .separator
      | some cs =>
        match takeDigits? 2 cs with
        | none => .error .monthCharacter
        | some (month, cs) =>
          match expect? '-' cs with
          | none => .error .separator
          | some cs =>
            match takeDigits? 2 cs with
            | none => .error .dayCharacter
            | some (day, cs) =>
              if month = 0 || 12 < month then .error .month
              else if day = 0 || daysInMonth year month < day then .error .day
              else .ok (dayNumber year month day, cs)

/-- Up to six decimals of a second; further ones are cut off. -/
def readDecimals? (cs : List Char) : Option (Nat × List Char) :=
  let digits := cs.takeWhile isPlainDigit
  if digits.isEmpty then none
  else
    let kept := digits.take 6
    some (digitsValue kept * powerOfTen (6 - kept.length), cs.dropWhile isPlainDigit)

/-- Hours and minutes, optionally seconds and decimals, in microseconds; decimals beyond the sixth
are cut off. -/
def readTimePart? (cs : List Char) : Option (Nat × List Char) := do
  let (hour, cs) ← takeDigits? 2 cs
  let cs ← expect? ':' cs
  let (minute, cs) ← takeDigits? 2 cs
  let (second, fraction, cs) ← match cs with
    | ':' :: cs => do
      let (second, cs) ← takeDigits? 2 cs
      match cs with
      | mark :: cs' =>
        if mark = '.' || mark = ',' then do
          let (fraction, cs) ← readDecimals? cs'
          some (second, fraction, cs)
        else some (second, 0, cs)
      | [] => some (second, 0, [])
    | _ => some (0, 0, cs)
  if hour < 24 && minute < 60 && second < 60 then
    some (((hour * 60 + minute) * 60 + second) * microsPerSecond + fraction, cs)
  else none

/-- A sign in front of an offset; `true` is minus, which may also be the mathematical sign. -/
def readZoneSign? : List Char → Option (Bool × List Char)
  | '+' :: cs => some (false, cs)
  | '-' :: cs | '\u00E2' :: '\u0088' :: '\u0092' :: cs => some (true, cs)
  | _ => none

/-- An offset of less than a day, with or without a colon, or nothing. -/
def readZonePart? (cs : List Char) : Option (Option Int) :=
  match cs with
  | [] => some none
  | ['Z'] | ['z'] => some (some 0)
  | _ => do
    let (negative, cs) ← readZoneSign? cs
    let (hour, cs) ← takeDigits? 2 cs
    let (minute, cs) ← match cs with
      | ':' :: cs => takeDigits? 2 cs
      | _ => takeDigits? 2 cs
    if cs.isEmpty && hour < 24 && minute < 60 then
      let micros := Int.ofNat ((hour * 60 + minute) * 60 * microsPerSecond)
      some (some (if negative then -micros else micros))
    else none

def readStamp? (cs : List Char) : Option Moment :=
  match readDatePart cs with
  | .error _ => none
  | .ok (day, rest) =>
    match rest with
    | mark :: rest =>
      if mark = 'T' || mark = 't' || mark = ' ' || mark = '_' then do
        let (micros, rest) ← readTimePart? rest
        let offset ← readZonePart? rest
        some ⟨day * Int.ofNat microsPerDay + micros, offset⟩
      else none
    | [] => some ⟨day * Int.ofNat microsPerDay, none⟩

/-! ### Numbers -/

/-- Numbers of a greater magnitude are milliseconds. -/
def millisecondsFrom : Nat := 20000000000

/-- The beginning of 1970 in microseconds since the beginning of year 1. -/
def epoch : Int := Int.ofNat ((⟨1970, 1, 1⟩ : Date).ordinal * microsPerDay)

/-- The beginning of year zero. -/
def earliest : Int := -Int.ofNat (366 * microsPerDay)

/-- The instant of a number of microseconds since 1970. -/
def instantOf (micros : Int) : Except InstantFault Moment :=
  let wall := epoch + micros
  if wall < earliest then .error .early
  else if wall < 0 || Moment.inRange wall then .ok ⟨wall, some 0⟩
  else .error .late

/-- A whole number of seconds or milliseconds in 64 bits. -/
def readWhole? (cs : List Char) : Option Int :=
  let (negative, digits) := takeSign cs
  let n := Int.ofNat (digitsValue digits)
  if digits.isEmpty || !digits.all isPlainDigit || Int.ofNat (powerOfTwo 63) ≤ n then none
  else some (if negative then -n else n)

/-- A number with a point, one side of which may be empty. -/
def readPointed? (cs : List Char) : Option Binary64 :=
  let (negative, unsigned) := takeSign cs
  if unsigned.all (fun c => isPlainDigit c || c = '.') && unsigned.contains '.' then
    readDecimal? negative unsigned
  else none

def microsOfWhole (n : Int) : Int :=
  n * if millisecondsFrom < n.natAbs then 1000 else Int.ofNat microsPerSecond

/-- The part beyond the whole units is rounded to microseconds after one multiplication, a half
away from zero. -/
def microsOfPointed? (x : Binary64) : Option Int := do
  let cut ← x.truncate?
  let whole := if x.lt (.ofInt cut) then cut - 1 else cut
  let unit := if (Binary64.ofInt millisecondsFrom).lt x.abs then 1000 else microsPerSecond
  let rest := (x.minusInteger whole).mul (.ofInt unit)
  let doubled ← (rest.mul (.ofInt 2)).truncate?
  some (whole * unit + (doubled + 1) / 2)

/-! ### Instants -/

/-- Why a text that stands for no instant is not even a date; whole numbers are days that lie too
far away. -/
def faultOf (cs : List Char) : InstantFault :=
  match readDatePart cs, readWhole? cs with
  | .ok _, _ => .rest
  | .error _, some n => if n < 0 then .early else .late
  | .error fault, none => fault

def readInstant (s : String) : Except InstantFault Moment :=
  let cs := bytesOf s
  let numbered : Option Int := (readWhole? cs).elim
    ((readPointed? cs).bind microsOfPointed?) fun n => some (microsOfWhole n)
  match readStamp? cs, numbered.map instantOf with
  | some stamp, _ => .ok stamp
  | none, some (.ok stamp) => .ok stamp
  | none, _ => .error (faultOf cs)

/-- Year zero can be read, but there are no moments in it. -/
def readQueryInstant (d : Datum) : Checked Moment :=
  match d with
  | .text s =>
    match readInstant s with
    | .ok stamp =>
      if stamp.wall < 0 then
        .refuse d "datetime_parsing" "Input should be a valid datetime, year 0 is out of range"
      else .sound stamp
    | .error fault =>
      .refuse d "datetime_from_date_parsing"
        ("Input should be a valid datetime or date, " ++ fault.text)
  | _ => .refuse d "datetime_type" "Input should be a valid datetime"

end DeviceAlerts.Form
