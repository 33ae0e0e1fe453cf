/-! Binary floating point numbers of 64 bits as exact data. A number other than NaN is its sign
and its magnitude, the low 63 bits of the usual encoding read as a natural number: magnitudes are
in the order of the absolute values they stand for, and the greatest one is infinity. All
arithmetic is exact arithmetic on ratios of naturals followed by one rounding to the nearest
magnitude, a tie going to the even one. -/

namespace DeviceAlerts.Number

/-! ### Powers of the two bases that numbers are written in -/

def powerOfTwo (exponent : Nat) : Nat := Nat.pow 2 exponent

def powerOfTen (exponent : Nat) : Nat := Nat.pow 10 exponent

/-! ### Numbers -/

/-- The magnitude of infinity: the exponent field all ones, the fraction zero. -/
def infiniteMagnitude : Nat := 0x7FF0000000000000

inductive Binary64
  | nan
  | signed (negative : Bool) (magnitude : Fin (infiniteMagnitude + 1))
  deriving DecidableEq

namespace Binary64

/-- Magnitudes beyond infinity are infinity. -/
def ofMagnitude (negative : Bool) (magnitude : Nat) : Binary64 :=
  .signed negative ⟨min magnitude infiniteMagnitude, by omega⟩

def zero : Binary64 := ofMagnitude false 0

def infinity (negative : Bool) : Binary64 := ofMagnitude negative infiniteMagnitude

/-! ### The value of a magnitude -/

/-- A finite magnitude stands for `mantissa * 2 ^ exponent`. -/
structure Scaled where
  mantissa : Nat
  exponent : Int

/-- Below the first power of two the unit is fixed; above it every binade has its own. -/
def scaled (magnitude : Nat) : Scaled :=
  if magnitude < powerOfTwo 52 then ⟨magnitude, -1074⟩
  else ⟨powerOfTwo 52 + magnitude % powerOfTwo 52, Int.ofNat (magnitude / powerOfTwo 52) - 1075⟩

/-- A non-negative ratio; the denominator is positive wherever one is built. -/
structure Ratio where
  num : Nat
  den : Nat

def Scaled.ratio (s : Scaled) : Ratio :=
  if 0 ≤ s.exponent then ⟨s.mantissa * powerOfTwo s.exponent.toNat, 1⟩
  else ⟨s.mantissa, powerOfTwo (-s.exponent).toNat⟩

def ratio (magnitude : Nat) : Ratio := (scaled magnitude).ratio

/-! ### Rounding -/

/-- The nearest natural to `num / den`, a tie going to the even one. -/
def roundHalfEven (num den : Nat) : Nat :=
  let q := num / den
  let r := num % den
  if 2 * r < den then q
  else if den < 2 * r then q + 1
  else if q % 2 == 0 then q else q + 1

/-- The exponent of the binade of a positive ratio: the greatest `e` with `2 ^ e ≤ num / den`. -/
def binade (num den : Nat) : Int :=
  let e := Int.ofNat num.log2 - Int.ofNat den.log2
  let fits := if 0 ≤ e then den * powerOfTwo e.toNat ≤ num else den ≤ num * powerOfTwo (-e).toNat
  if fits then e else e - 1

/-- The nearest magnitude to a ratio. -/
def roundRatio (num den : Nat) : Nat :=
  if num == 0 then 0
  else
    let unit := max (binade num den - 52) (-1074)
    let steps :=
      if 0 ≤ unit then roundHalfEven num (den * powerOfTwo unit.toNat)
      else roundHalfEven (num * powerOfTwo (-unit).toNat) den
    min ((unit + 1074).toNat * powerOfTwo 52 + steps) infiniteMagnitude

def ofRatio (negative : Bool) (num den : Nat) : Binary64 :=
  ofMagnitude negative (roundRatio num den)

/-- The nearest number to an integer. -/
def ofInt (i : Int) : Binary64 := ofRatio (i < 0) i.natAbs 1

/-- The nearest number to the quotient of two integers. -/
def ofQuotient (a : Int) (b : Nat) : Binary64 := ofRatio (a < 0) a.natAbs b

/-! ### Order -/

/-- The position of a number on the line; both zeros are at zero. -/
def key : Binary64 → Option Int
  | nan => none
  | signed negative m => some (if negative then -Int.ofNat m.val else Int.ofNat m.val)

/-- NaN is not less than anything, and nothing is less than NaN. -/
def lt (x y : Binary64) : Bool :=
  match x.key, y.key with
  | some a, some b => a < b
  | _, _ => false

def eq (x y : Binary64) : Bool :=
  match x.key, y.key with
  | some a, some b => a == b
  | _, _ => false

def isNaN : Binary64 → Bool
  | nan => true
  | signed _ _ => false

def isFinite : Binary64 → Bool
  | nan => false
  | signed _ m => m.val < infiniteMagnitude

def abs : Binary64 → Binary64
  | nan => nan
  | signed _ m => signed false m

/-! ### Arithmetic -/

/-- The product of two finite numbers. -/
def mul : Binary64 → Binary64 → Binary64
  | signed n a, signed m b =>
    let x := ratio a.val
    let y := ratio b.val
    ofRatio (n != m) (x.num * y.num) (x.den * y.den)
  | _, _ => nan

/-- The quotient of two numbers; infinity divided by a finite number is infinity. -/
def div : Binary64 → Binary64 → Binary64
  | signed n a, signed m b =>
    let x := ratio a.val
    let y := ratio b.val
    if b.val == infiniteMagnitude then
      if a.val == infiniteMagnitude then nan else ofMagnitude (n != m) 0
    else if a.val == infiniteMagnitude then infinity (n != m)
    else ofRatio (n != m) (x.num * y.den) (x.den * y.num)
  | _, _ => nan

/-- The integer part of a finite number, toward zero. -/
def truncate? : Binary64 → Option Int
  | nan => none
  | signed negative m =>
    if m.val < infiniteMagnitude then
      let x := ratio m.val
      let whole := Int.ofNat (x.num / x.den)
      some (if negative then -whole else whole)
    else none

/-- A finite number less an integer. -/
def minusInteger (x : Binary64) (i : Int) : Binary64 :=
  match x with
  | nan => nan
  | signed negative m =>
    let r := ratio m.val
    let num := (if negative then -Int.ofNat r.num else Int.ofNat r.num) - i * r.den
    ofRatio (num < 0) num.natAbs r.den

/-- The number as an integer, when it is one. -/
def toInt? (x : Binary64) : Option Int :=
  match x with
  | nan => none
  | signed _ m =>
    let r := ratio m.val
    if m.val < infiniteMagnitude && r.num % r.den == 0 then x.truncate? else none

/-- The nearest integer to a multiple of a finite number, half to even. -/
def timesToInt? (x : Binary64) (factor : Nat) : Option Int :=
  match x with
  | nan => none
  | signed negative m =>
    if m.val < infiniteMagnitude then
      let r := ratio m.val
      let n := Int.ofNat (roundHalfEven (r.num * factor) r.den)
      some (if negative then -n else n)
    else none

/-- The nearest number to the exact value rounded to `places` decimals, half to even. -/
def roundPlaces (places : Nat) : Binary64 → Binary64
  | nan => nan
  | signed negative m =>
    if m.val < infiniteMagnitude then
      let x := ratio m.val
      ofRatio negative (roundHalfEven (x.num * powerOfTen places) x.den) (powerOfTen places)
    else signed negative m

end Binary64

/-- Why a calculation with integers has no floating point number as its result. -/
inductive OverflowFault
  | operand
  | quotient
  deriving DecidableEq

def OverflowFault.message : OverflowFault → String
  | operand => "int too large to convert to float"
  | quotient => "integer division result too large for a float"

namespace Binary64

/-- The nearest number to an integer that is not too large for one. -/
def ofIntChecked (i : Int) : Except OverflowFault Binary64 :=
  if (ofInt i).isFinite then .ok (ofInt i) else .error .operand

/-- The nearest number to the quotient of two integers that is not too large for one. -/
def ofQuotientChecked (a : Int) (b : Nat) : Except OverflowFault Binary64 :=
  if (ofQuotient a b).isFinite then .ok (ofQuotient a b) else .error .quotient

end Binary64

end DeviceAlerts.Number
