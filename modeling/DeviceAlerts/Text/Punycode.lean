/-! The ASCII form of a name with other characters: the ASCII characters come first, then one
number for every other character, which says where it stands and which one it is. The numbers are
written in base 36 with digits whose weights adapt to the numbers before. Reading puts in one
character after the other. -/

namespace DeviceAlerts.Text.Punycode

def base : Nat := 36

def lowestThreshold : Nat := 1

def highestThreshold : Nat := 26

def skew : Nat := 38

/-- The letters come before the digits. -/
def digit (n : Nat) : Char := if n < 26 then Char.ofNat (0x61 + n) else Char.ofNat (0x30 + n - 26)

/-- Brings a number into the range in which the next numbers are expected. -/
def settle (delta : Nat) : Nat → Nat × Nat
  | 0 => (delta, 0)
  | fuel + 1 =>
    if (base - lowestThreshold) * highestThreshold / 2 < delta then
      let (delta, steps) := settle (delta / (base - lowestThreshold)) fuel
      (delta, steps + 1)
    else (delta, 0)

def adapt (delta count : Nat) (isFirst : Bool) : Nat :=
  let halved := if isFirst then delta / 700 else delta / 2
  let (delta, steps) := settle (halved + halved / count) 64
  base * steps + (base - lowestThreshold + 1) * delta / (delta + skew)

def threshold (bias place : Nat) : Nat :=
  max lowestThreshold (min highestThreshold (place - bias))

/-- The digits of a number from a place on; the last one is below its threshold. -/
def number (bias place n : Nat) : Nat → List Char
  | 0 => []
  | fuel + 1 =>
    let t := threshold bias place
    if n < t then [digit n]
    else digit (t + (n - t) % (base - t)) :: number bias (place + base) ((n - t) / (base - t)) fuel

/-! ### Writing -/

structure State where
  delta : Nat
  bias : Nat
  handled : Nat
  isFirst : Bool

/-- The numbers for all places of one character. -/
def encodeCode (code : Nat) : List Nat → State → List Char × State
  | [], s => ([], s)
  | c :: rest, s =>
    if c < code then encodeCode code rest { s with delta := s.delta + 1 }
    else if c = code then
      let written := number s.bias base s.delta 64
      let next : State := ⟨0, adapt s.delta (s.handled + 1) s.isFirst, s.handled + 1, false⟩
      let (more, s) := encodeCode code rest next
      (written ++ more, s)
    else encodeCode code rest s

/-- The numbers for the characters of a name, each at its first place, in the order of their codes;
`reached` is the code that comes after the last one that was written. -/
def encodeCodes (all : List Nat) (reached : Nat) : List Nat → State → List Char
  | [], _ => []
  | code :: rest, s =>
    let skipped := (code - reached) * (s.handled + 1)
    let (written, s) := encodeCode code all { s with delta := s.delta + skipped }
    written ++ encodeCodes all (code + 1) rest { s with delta := s.delta + 1 }

/-- The ASCII form of a name. -/
def encode (cs : List Char) : List Char :=
  let plain := cs.filter fun c => c.toNat < 0x80
  let others := ((cs.map (·.toNat)).filter fun n => 0x80 ≤ n).mergeSort.eraseDups
  let start := if plain.isEmpty then [] else plain ++ ['-']
  start ++ encodeCodes (cs.map (·.toNat)) 0x80 others ⟨0, 72, plain.length, true⟩

/-! ### Reading -/

def digit? (c : Char) : Option Nat :=
  if 'a' ≤ c && c ≤ 'z' then some (c.toNat - 0x61)
  else if '0' ≤ c && c ≤ '9' then some (c.toNat - 0x30 + 26)
  else none

/-- A number at the head of a text, and what follows it. -/
def readNumber (bias place weight : Nat) : List Char → Option (Nat × List Char)
  | [] => none
  | c :: rest => do
    let digit ← digit? c
    let t := threshold bias place
    if digit < t then return (digit * weight, rest)
    let (more, rest) ← readNumber bias (place + base) (weight * (base - t)) rest
    return (digit * weight + more, rest)

def highestCode : Nat := 0x10FFFF

/-- Puts a character into `done` for every number of a text, of which there are at most as many as
characters; `place` and `code` are where the last one was put and which one it was. -/
def readNumbers (done : List Nat) (place code bias : Nat) (isFirst : Bool) (cs : List Char) :
    Nat → Option (List Nat)
  | 0 => some done
  | fuel + 1 =>
    if cs.isEmpty then some done
    else do
      let (delta, rest) ← readNumber bias base 1 cs
      let count := done.length + 1
      let code := code + (place + delta) / count
      let place := (place + delta) % count
      if highestCode < code then failure
      readNumbers (done.insertIdx place code) (place + 1) code (adapt delta count isFirst) false
        rest fuel

/-- The codes of the name that a text is the ASCII form of. -/
def decode? (cs : List Char) : Option (List Nat) :=
  let numbers := (cs.reverse.takeWhile (· ≠ '-')).reverse
  let plain := cs.take (cs.length - numbers.length - 1)
  readNumbers (plain.map Char.toNat) 0 0x80 72 true numbers numbers.length

end DeviceAlerts.Text.Punycode
