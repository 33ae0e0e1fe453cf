import DeviceAlerts.Number.Binary64
import DeviceAlerts.Text.Blank
import DeviceAlerts.Text.Digit

/-! Reading numbers from text. Digits of every script count, white space around a number is
ignored, and a single underscore may stand between two digits. The information separators are not
ignored: of the ASCII characters only layout is. -/

namespace DeviceAlerts.Number

open DeviceAlerts.Text

/-- White space that may surround a number. -/
def isNumeralBlank (c : Char) : Bool := isLayout c || isWideBlank c

/-- Digits of every script become ASCII digits. -/
def plainDigit (c : Char) : Char :=
  match digitValue? c with
  | some d => Char.ofNat (0x30 + d)
  | none => c

/-- The characters of a numeral: trimmed, with plain digits. -/
def plainNumeral (s : String) : List Char := (trimBy isNumeralBlank s.toList).map plainDigit

def isPlainDigit (c : Char) : Bool := '0' ≤ c && c ≤ '9'

/-- Drops the underscores, each of which has to stand between two digits. -/
def dropUnderscores? : Option Char → List Char → Option (List Char)
  | _, [] => some []
  | before, '_' :: rest =>
    if before.any isPlainDigit && rest.head?.any isPlainDigit then dropUnderscores? none rest
    else none
  | _, c :: rest => (dropUnderscores? (some c) rest).map (c :: ·)

def digitsValue (cs : List Char) : Nat := cs.foldl (fun n c => 10 * n + (c.toNat - 0x30)) 0

/-- Splits off a sign; `true` is minus. -/
def takeSign : List Char → Bool × List Char
  | '-' :: rest => (true, rest)
  | '+' :: rest => (false, rest)
  | cs => (false, cs)

/-! ### Integers -/

/-- Integers of more digits than this are not read. -/
def integerDigitLimit : Nat := 4300

inductive IntegerFault
  | malformed
  | tooManyDigits (count : Nat)
  deriving DecidableEq

def readInteger (s : String) : Except IntegerFault Int :=
  let (negative, unsigned) := takeSign (plainNumeral s)
  match dropUnderscores? none unsigned with
  | none => .error .malformed
  | some digits =>
    if digits.isEmpty || !digits.all isPlainDigit then .error .malformed
    else if integerDigitLimit < digits.length then .error (.tooManyDigits digits.length)
    else
      let n := Int.ofNat (digitsValue digits)
      .ok (if negative then -n else n)

/-! ### Floating point numbers -/

/-- An exponent part, or nothing at all. -/
def readExponent? : List Char → Option Int
  | [] => some 0
  | mark :: rest =>
    if mark == 'e' || mark == 'E' then
      let (negative, digits) := takeSign rest
      if digits.isEmpty || !digits.all isPlainDigit then none
      else
        let n := Int.ofNat (digitsValue digits)
        some (if negative then -n else n)
    else none

/-- The digits of `digits * 10 ^ exponent`, with bounds beyond which the result is infinite or
zero whatever the digits are. -/
def ofDecimal (negative : Bool) (digits : List Char) (exponent : Int) : Binary64 :=
  let significant := digits.dropWhile (· == '0')
  let size := Int.ofNat significant.length + exponent
  if significant.isEmpty || size < -400 then .ofMagnitude negative 0
  else if 400 < size then .infinity negative
  else if 0 ≤ exponent then
    .ofRatio negative (digitsValue significant * powerOfTen exponent.toNat) 1
  else .ofRatio negative (digitsValue significant) (powerOfTen (-exponent).toNat)

/-- Digits with an optional point and exponent; a digit is needed on one side of the point. -/
def readDecimal? (negative : Bool) (cs : List Char) : Option Binary64 :=
  let whole := cs.takeWhile isPlainDigit
  let afterWhole := cs.dropWhile isPlainDigit
  let (fraction, rest) := match afterWhole with
    | '.' :: more => (more.takeWhile isPlainDigit, more.dropWhile isPlainDigit)
    | _ => ([], afterWhole)
  if whole.isEmpty && fraction.isEmpty then none
  else (readExponent? rest).map fun e =>
    ofDecimal negative (whole ++ fraction) (e - Int.ofNat fraction.length)

/-- A number, or one of the words for infinity and NaN in any case. -/
def readBinary64? (s : String) : Option Binary64 :=
  (dropUnderscores? none (plainNumeral s)).bind fun cs =>
    let (negative, unsigned) := takeSign cs
    let word := String.ofList (unsigned.map Char.toLower)
    if word == "inf" || word == "infinity" then some (.infinity negative)
    else if word == "nan" then some .nan
    else readDecimal? negative unsigned

end DeviceAlerts.Number
