import DeviceAlerts.Form.Checked

/-! Reading the values of form fields. -/

namespace DeviceAlerts.Form

open DeviceAlerts.Number DeviceAlerts.Text

/-! ### Integers -/

/-- Drops the zeros in front of a digit, a point or a minus, and the underscores among them. -/
def dropLeadingZeros? (before : Char) : List Char → Option (List Char)
  | [] => some [before]
  | '.' :: rest => some (before :: '.' :: rest)
  | c :: rest =>
    if c = '0' || c = '_' then dropLeadingZeros? c rest
    else if isPlainDigit c || c = '-' then some (c :: rest)
    else none

/-- A numeral has to begin with a digit. -/
def plainWhole? : List Char → Option (List Char)
  | '0' :: rest => dropLeadingZeros? '0' rest
  | c :: rest => if isPlainDigit c then some (c :: rest) else none
  | [] => none

/-- Drops a point that only zeros follow. -/
def dropZeroFraction (cs : List Char) : List Char :=
  let whole := cs.takeWhile (· ≠ '.')
  let fraction := (cs.dropWhile (· ≠ '.')).drop 1
  if !fraction.isEmpty && fraction.all (· = '0') then whole else cs

/-- Drops single underscores, none of which may stand at an end. -/
def dropSingleUnderscores? (cs : List Char) : Option (List Char) :=
  let doubled := (cs.zip (cs.drop 1)).contains ('_', '_')
  if cs.head? = some '_' || cs.getLast? = some '_' || doubled then none
  else some (cs.filter (· ≠ '_'))

/-- The sign and the digits of a numeral in ASCII digits with white space around it; no zero stands
in front. -/
def readNumeral? (s : String) : Option (Bool × List Char) := do
  let cs := trimBy isNumeralBlank s.toList
  let (negative, unsigned) ← match cs with
    | '+' :: '-' :: _ => none
    | '+' :: rest => some (false, rest)
    | '-' :: rest => some (true, rest)
    | _ => some (false, cs)
  let whole ← plainWhole? unsigned
  let digits ← dropSingleUnderscores? (dropZeroFraction whole)
  let (negative, digits) ← match negative, digits with
    | true, '-' :: _ => none
    | false, '-' :: digits => some (true, digits)
    | _, _ => some (negative, digits)
  if digits.isEmpty || !digits.all isPlainDigit || (digits.head? = some '0' && 1 < digits.length)
  then none
  else some (negative, digits)

/-- Floats and numerals of integers longer than this are refused for their size. -/
def oversize {α : Type} (given : Datum) : Checked α :=
  .refuse given "int_parsing_size"
    "Unable to parse input string as an integer, exceeded maximum size"

def readInteger (given : Datum) : Checked Int :=
  match given with
  | .int i => .sound i
  | .bool b => .sound b.toNat
  | .float x =>
    if !x.isFinite then .refuse given "finite_number" "Input should be a finite number"
    else
      match x.toInt? with
      | none =>
        .refuse given "int_from_float"
          "Input should be a valid integer, got a number with a fractional part"
      | some i => if i.natAbs < powerOfTwo 63 then .sound i else oversize given
  | .text s =>
    match readNumeral? s with
    | some (negative, digits) =>
      if integerDigitLimit < digits.length then oversize given
      else
        let n := Int.ofNat (digitsValue digits)
        .sound (if negative then -n else n)
    | none =>
      .refuse given "int_parsing"
        "Input should be a valid integer, unable to parse string as an integer"
  | _ => .refuse given "int_type" "Input should be a valid integer"

def tooSmall {α : Type} (given : Datum) (least : Int) : Checked α :=
  .refuse given "greater_than_equal"
    ("Input should be greater than or equal to " ++ toString least)

def tooLarge {α : Type} (given : Datum) (most : Int) : Checked α :=
  .refuse given "less_than_equal" ("Input should be less than or equal to " ++ toString most)

/-- An integer within bounds. -/
def readBounded (least : Int) (most : Option Int) (d : Datum) : Checked Int :=
  match readInteger d with
  | .sound i =>
    if i < least then tooSmall d least
    else
      match most with
      | some most => if most < i then tooLarge d most else .sound i
      | none => .sound i
  | flawed => flawed

def readNatural (d : Datum) : Checked Nat :=
  match readInteger d with
  | .sound i => if i < 0 then tooSmall d 0 else .sound i.toNat
  | .flawed flaws => .flawed flaws

/-- Flaws of items stand at their index. -/
def readItems (index : Nat) : List Datum → Checked (List Int)
  | [] => .sound []
  | d :: rest => List.cons <$> (readInteger d).within (.int index) <*> readItems (index + 1) rest

def readIntegers : Datum → Checked (List Int)
  | .list items => readItems 0 items
  | other => .refuse other "list_type" "Input should be a valid list"

/-! ### Text and choices -/

def readText : Datum → Checked String
  | .text s => .sound s
  | .garbled =>
    .refuse .garbled "string_unicode"
      "Input should be a valid string, unable to parse raw data as a unicode string"
  | other => .refuse other "string_type" "Input should be a valid string"

/-- Null stands for nothing. -/
def readOptional {α : Type} (read : Datum → Checked α) : Datum → Checked (Option α)
  | .null => .sound none
  | d => (read d).map some

/-- Text that is not empty. -/
def readSomeText (d : Datum) : Checked String :=
  match readText d with
  | .sound s =>
    if s = "" then .refuse d "string_too_short" "String should have at least 1 character"
    else .sound s
  | flawed => flawed

def readCompareType (d : Datum) : Checked CompareType :=
  match CompareType.ofDatum? d with
  | some type => .sound type
  | none => .refuse d "enum" "Input should be '=', '<' or '>'"

/-- How grave a message is. -/
inductive Severity
  | info
  | warning
  | error
  | critical
  deriving DecidableEq

namespace Severity

def text : Severity → String
  | info => "info"
  | warning => "warning"
  | error => "error"
  | critical => "critical"

def all : List Severity := [info, warning, error, critical]

def ofText? (s : String) : Option Severity := all.find? fun v => v.text = s

end Severity

def readSeverity (d : Datum) : Checked Severity :=
  match d with
  | .text s =>
    match Severity.ofText? s with
    | some severity => .sound severity
    | none => .refuse d "enum" "Input should be 'info', 'warning', 'error' or 'critical'"
  | _ => .refuse d "enum" "Input should be 'info', 'warning', 'error' or 'critical'"

end DeviceAlerts.Form
