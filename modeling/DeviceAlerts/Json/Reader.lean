import DeviceAlerts.Datum

/-! Reading JSON. A fault names the offset in the text at which reading stopped. The words for NaN
and the infinities are accepted, and of several members with one name the last counts. -/

namespace DeviceAlerts.Json

open DeviceAlerts.Number

inductive Fault
  /-- The text is not JSON from this offset on. -/
  | invalid (offset : Nat)
  | hugeInteger
  /-- Lists and records stand inside one another too deep. -/
  | deepNesting
  deriving DecidableEq

/-- What is left of a text and where it starts. -/
structure Cursor where
  offset : Nat
  rest : List Char

namespace Cursor

def advance (c : Cursor) (count : Nat) : Cursor := ⟨c.offset + count, c.rest.drop count⟩

def isJsonBlank (c : Char) : Bool := c == ' ' || c == '\t' || c == '\n' || c == '\r'

def skipBlank (c : Cursor) : Cursor := c.advance (c.rest.takeWhile isJsonBlank).length

def startsWith (c : Cursor) (word : String) : Bool := word.toList.isPrefixOf c.rest

end Cursor

/-! ### Strings -/

def hexValue? (c : Char) : Option Nat :=
  if '0' ≤ c && c ≤ '9' then some (c.toNat - 0x30)
  else if 'a' ≤ c && c ≤ 'f' then some (c.toNat - 0x57)
  else if 'A' ≤ c && c ≤ 'F' then some (c.toNat - 0x37)
  else none

def hexNumber? (cs : List Char) : Option Nat :=
  cs.foldlM (fun n c => (hexValue? c).map (16 * n + ·)) 0

def escapeValue? (c : Char) : Option Char :=
  if c == '\x22' || c == '\\' || c == '/' then some c
  else if c == 'b' then some '\x08'
  else if c == 'f' then some '\x0c'
  else if c == 'n' then some '\n'
  else if c == 'r' then some '\r'
  else if c == 't' then some '\t'
  else none

def isHighSurrogate (n : Nat) : Bool := 0xD800 ≤ n && n ≤ 0xDBFF

def isLowSurrogate (n : Nat) : Bool := 0xDC00 ≤ n && n ≤ 0xDFFF

/-- A text that was read; half a character spoils all of it. -/
structure Characters where
  reversed : List Char
  isGarbled : Bool

namespace Characters

def add (cs : Characters) (c : Char) : Characters := { cs with reversed := c :: cs.reversed }

/-- A code unit that is half a character is shown as the replacement character. -/
def addUnit (cs : Characters) (n : Nat) : Characters :=
  if isHighSurrogate n || isLowSurrogate n then ⟨'\uFFFD' :: cs.reversed, true⟩
  else cs.add (Char.ofNat n)

def text (cs : Characters) : String := String.ofList cs.reversed.reverse

def value (cs : Characters) : Datum := if cs.isGarbled then .garbled else .text cs.text

end Characters

/-- The second half of a pair, when the text goes on with one and does not end with it. -/
def lowHalf? (cs : List Char) : Option Nat :=
  match cs with
  | '\\' :: 'u' :: rest =>
    if rest.length ≤ 4 then none else (hexNumber? (rest.take 4)).filter isLowSurrogate
  | _ => none

/-- The characters up to the closing quote, which stands at `start` when it opens. -/
def readCharacters (start : Nat) : Nat → Cursor → Characters → Except Fault (Characters × Cursor)
  | 0, c, _ => .error (.invalid c.offset)
  | fuel + 1, c, read =>
    match c.rest with
    | [] => .error (.invalid start)
    | '\x22' :: _ => .ok (read, c.advance 1)
    | ['\\'] => .error (.invalid start)
    | '\\' :: 'u' :: digits =>
      match (if (digits.drop 4).isEmpty then none else hexNumber? (digits.take 4)) with
      | none => .error (.invalid (c.offset + 1))
      | some n =>
        let next := c.advance 6
        match (if isHighSurrogate n then lowHalf? (next.rest.take 7) else none) with
        | some low =>
          let joined := 0x10000 + (n - 0xD800) * 0x400 + (low - 0xDC00)
          readCharacters start fuel (next.advance 6) (read.add (Char.ofNat joined))
        | none => readCharacters start fuel next (read.addUnit n)
    | '\\' :: e :: _ =>
      match escapeValue? e with
      | some d => readCharacters start fuel (c.advance 2) (read.add d)
      | none => .error (.invalid c.offset)
    | d :: _ =>
      if d.toNat < 0x20 then .error (.invalid c.offset)
      else readCharacters start fuel (c.advance 1) (read.add d)

/-- A string whose opening quote is at the cursor. -/
def readString (c : Cursor) : Except Fault (Characters × Cursor) :=
  readCharacters c.offset (c.rest.length + 1) (c.advance 1) ⟨[], false⟩

/-! ### Numbers -/

/-- The length of the exponent part at the head of a text, zero if there is none. -/
def exponentLength (cs : List Char) : Nat :=
  match cs with
  | e :: rest =>
    if e == 'e' || e == 'E' then
      let signed := match rest with
        | s :: _ :: _ => s == '+' || s == '-'
        | _ => false
      let digits := ((if signed then rest.drop 1 else rest).takeWhile isPlainDigit).length
      if digits == 0 then 0 else 1 + (if signed then 1 else 0) + digits
    else 0
  | [] => 0

def fractionLength (cs : List Char) : Nat :=
  match cs with
  | '.' :: rest =>
    let digits := (rest.takeWhile isPlainDigit).length
    if digits == 0 then 0 else 1 + digits
  | _ => 0

/-- A number without superfluous zeros in front; a point or an exponent makes it a float. -/
def readNumber (c : Cursor) : Except Fault (Datum × Cursor) :=
  let negative := c.rest.head? == some '-'
  let unsigned := if negative then c.rest.drop 1 else c.rest
  let whole := match unsigned with
    | '0' :: _ => ['0']
    | _ => unsigned.takeWhile isPlainDigit
  if whole.isEmpty then .error (.invalid c.offset)
  else
    let tail := unsigned.drop whole.length
    let fraction := fractionLength tail
    let exponent := exponentLength (tail.drop fraction)
    let size := (if negative then 1 else 0) + whole.length + fraction + exponent
    if fraction + exponent == 0 then
      if integerDigitLimit < whole.length then .error .hugeInteger
      else
        let n := Int.ofNat (digitsValue whole)
        .ok (.int (if negative then -n else n), c.advance size)
    else
      let text := whole ++ tail.take (fraction + exponent)
      .ok (.float ((readDecimal? negative text).getD .nan), c.advance size)

/-! ### Values -/

/-- The words that stand for a value. -/
def words : List (String × Datum) :=
  [("null", .null), ("true", .bool true), ("false", .bool false), ("NaN", .float .nan),
    ("Infinity", .float (.infinity false)), ("-Infinity", .float (.infinity true))]

/-- Sets a member of a record; one whose name is garbled spoils its value too. -/
def setMember (key : Characters) (value : Datum) (read : List (String × Datum)) :
    List (String × Datum) :=
  Table.set key.text (if key.isGarbled then .garbled else value) read

mutual
/-- A value inside of at most `depth` lists and records. -/
def readValue (depth : Nat) : Nat → Cursor → Except Fault (Datum × Cursor)
  | 0, c => .error (.invalid c.offset)
  | fuel + 1, c =>
    match c.rest with
    | [] => .error (.invalid c.offset)
    | '\x22' :: _ => (readString c).map fun r => (r.1.value, r.2)
    | '[' :: _ =>
      let first := (c.advance 1).skipBlank
      if depth = 0 then .error .deepNesting
      else if first.rest.head? == some ']' then .ok (.list [], first.advance 1)
      else readItems (depth - 1) fuel first []
    | '\x7b' :: _ =>
      let first := (c.advance 1).skipBlank
      if depth = 0 then .error .deepNesting
      else if first.rest.head? == some '\x7d' then .ok (.record [], first.advance 1)
      else readMembers (depth - 1) fuel first []
    | _ =>
      match words.find? fun w => c.startsWith w.1 with
      | some w => .ok (w.2, c.advance w.1.length)
      | none => readNumber c

/-- The items of a list from the cursor on. -/
def readItems (depth : Nat) : Nat → Cursor → List Datum → Except Fault (Datum × Cursor)
  | 0, c, _ => .error (.invalid c.offset)
  | fuel + 1, c, read => do
    let (item, c) ← readValue depth fuel c
    let c := c.skipBlank
    match c.rest with
    | ']' :: _ => .ok (.list (item :: read).reverse, c.advance 1)
    | ',' :: _ => readItems depth fuel (c.advance 1).skipBlank (item :: read)
    | _ => .error (.invalid c.offset)

/-- The members of a record from the cursor on. -/
def readMembers (depth : Nat) :
    Nat → Cursor → List (String × Datum) → Except Fault (Datum × Cursor)
  | 0, c, _ => .error (.invalid c.offset)
  | fuel + 1, c, read =>
    match c.rest with
    | '\x22' :: _ => do
      let (key, c) ← readString c
      let c := c.skipBlank
      match c.rest with
      | ':' :: _ => do
        let (value, c) ← readValue depth fuel (c.advance 1).skipBlank
        let c := c.skipBlank
        let read := setMember key value read
        match c.rest with
        | '\x7d' :: _ => .ok (.record read, c.advance 1)
        | ',' :: _ => readMembers depth fuel (c.advance 1).skipBlank read
        | _ => .error (.invalid c.offset)
      | _ => .error (.invalid c.offset)
    | _ => .error (.invalid c.offset)
end

/-- The value that a text holds, with nothing but white space around it. -/
def read (depth : Nat) (cs : List Char) : Except Fault Datum := do
  let (value, c) ← readValue depth (2 * cs.length + 2) (Cursor.skipBlank ⟨0, cs⟩)
  let c := c.skipBlank
  if c.rest.isEmpty then .ok value else .error (.invalid c.offset)

end DeviceAlerts.Json
