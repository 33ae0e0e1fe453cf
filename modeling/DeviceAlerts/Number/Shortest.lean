import DeviceAlerts.Number.Binary64

/-! The shortest decimal text of a floating point number: the fewest digits that round back to it,
and of those the nearest to it. Numbers from `1e-4` up to `1e16` are written positionally, with at
least one decimal; others with an exponent of at least two digits. -/

namespace DeviceAlerts.Number

/-- The open interval of reals that round to a magnitude, over one denominator; its ends belong to
it when `closed`. -/
structure Interval where
  low : Nat
  high : Nat
  den : Nat
  closed : Bool

/-- The ends are halfway to the neighbours; the lower neighbour of a power of two is half as far. -/
def Interval.around (magnitude : Nat) : Interval :=
  let s := Binary64.scaled magnitude
  let den := 4 * powerOfTwo (-s.exponent).toNat
  let scale := powerOfTwo s.exponent.toNat
  let below := if s.mantissa == powerOfTwo 52 && powerOfTwo 52 < magnitude then 1 else 2
  ⟨(4 * s.mantissa - below) * scale, (4 * s.mantissa + 2) * scale, den, s.mantissa % 2 == 0⟩

/-- Whether `num / den` rounds back. -/
def Interval.contains (i : Interval) (num den : Nat) : Bool :=
  let x := num * i.den
  if i.closed then i.low * den ≤ x && x ≤ i.high * den
  else i.low * den < x && x < i.high * den

def digitCount (n : Nat) : Nat := (Nat.toDigits 10 n).length

/-- The exponent of the first decimal digit of a positive ratio. -/
def decade (num den : Nat) : Int :=
  if den ≤ num then Int.ofNat (digitCount (num / den)) - 1
  else -Int.ofNat (digitCount ((den - 1) / num))

/-- A decimal `digits * 10 ^ exponent`. -/
structure Decimal where
  digits : Nat
  exponent : Int

/-- The multiples of `10 ^ exponent` on both sides of a ratio, the nearer one first. -/
def neighbours (num den : Nat) (exponent : Int) : List Nat :=
  let up := if 0 ≤ exponent then num else num * powerOfTen (-exponent).toNat
  let down := if 0 ≤ exponent then den * powerOfTen exponent.toNat else den
  let q := up / down
  if Binary64.roundHalfEven up down == q then [q, q + 1] else [q + 1, q]

def Decimal.roundsTo (i : Interval) (d : Decimal) : Bool :=
  if 0 ≤ d.exponent then i.contains (d.digits * powerOfTen d.exponent.toNat) 1
  else i.contains d.digits (powerOfTen (-d.exponent).toNat)

/-- Tries ever finer decimal grids; the seventeenth always has a hit. -/
def shortestFrom (i : Interval) (num den : Nat) (exponent : Int) : Nat → Decimal
  | 0 => ⟨(neighbours num den exponent).headD 0, exponent⟩
  | tries + 1 =>
    match (neighbours num den exponent).find? fun d => Decimal.roundsTo i ⟨d, exponent⟩ with
    | some d => ⟨d, exponent⟩
    | none => shortestFrom i num den (exponent - 1) tries

/-- The shortest decimal of a positive finite magnitude. -/
def shortestDecimal (magnitude : Nat) : Decimal :=
  let x := Binary64.ratio magnitude
  shortestFrom (Interval.around magnitude) x.num x.den (decade x.num x.den) 17

/-- The digits without trailing zeros, and the exponent of the first one. -/
def Decimal.significant (d : Decimal) : List Char × Int :=
  let digits := Nat.toDigits 10 d.digits
  ((digits.reverse.dropWhile (· == '0')).reverse, d.exponent + Int.ofNat digits.length - 1)

def twoDigits (n : Nat) : List Char :=
  if n < 10 then '0' :: Nat.toDigits 10 n else Nat.toDigits 10 n

/-- The layout of significant digits whose first one has the given exponent. -/
def layOut (digits : List Char) (exponent : Int) : List Char :=
  if exponent < -4 || 16 ≤ exponent then
    let fraction := if digits.length ≤ 1 then [] else '.' :: digits.drop 1
    let sign := if exponent < 0 then '-' else '+'
    digits.take 1 ++ fraction ++ 'e' :: sign :: twoDigits exponent.natAbs
  else if exponent < 0 then
    '0' :: '.' :: List.replicate (-exponent - 1).toNat '0' ++ digits
  else
    let places := exponent.toNat + 1
    let whole := digits.take places ++ List.replicate (places - digits.length) '0'
    let fraction := digits.drop places
    whole ++ '.' :: (if fraction.isEmpty then ['0'] else fraction)

/-- The text of a number. -/
def Binary64.text : Binary64 → String
  | .nan => "nan"
  | .signed negative m =>
    let sign := if negative then "-" else ""
    if m.val == infiniteMagnitude then sign ++ "inf"
    else if m.val == 0 then sign ++ "0.0"
    else
      let (digits, exponent) := (shortestDecimal m.val).significant
      sign ++ String.ofList (layOut digits exponent)

end DeviceAlerts.Number
