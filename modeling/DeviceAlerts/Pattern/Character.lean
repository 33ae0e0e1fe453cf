import DeviceAlerts.Pattern.Tree
import DeviceAlerts.Text.Alphanumeric
import DeviceAlerts.Text.Blank
import DeviceAlerts.Text.Digit
import DeviceAlerts.Text.Uppercase

/-! Tests of single characters. Where case is ignored, the small letter of a character is tested,
and a few small letters that share a capital count as one another. -/

namespace DeviceAlerts.Pattern

open DeviceAlerts.Text

/-- Small letters that share their capital with other small letters. -/
def sharedCapitals : List (Nat × List Nat) :=
  [(0x69, [0x131]), (0x73, [0x17F]), (0xB5, [0x3BC]), (0x131, [0x69]), (0x17F, [0x73]),
    (0x345, [0x3B9, 0x1FBE]), (0x390, [0x1FD3]), (0x3B0, [0x1FE3]), (0x3B2, [0x3D0]),
    (0x3B5, [0x3F5]), (0x3B8, [0x3D1]), (0x3B9, [0x345, 0x1FBE]), (0x3BA, [0x3F0]),
    (0x3BC, [0xB5]), (0x3C0, [0x3D6]), (0x3C1, [0x3F1]), (0x3C2, [0x3C3]), (0x3C3, [0x3C2]),
    (0x3C6, [0x3D5]), (0x3D0, [0x3B2]), (0x3D1, [0x3B8]), (0x3D5, [0x3C6]), (0x3D6, [0x3C0]),
    (0x3F0, [0x3BA]), (0x3F1, [0x3C1]), (0x3F5, [0x3B5]), (0x432, [0x1C80]), (0x434, [0x1C81]),
    (0x43E, [0x1C82]), (0x441, [0x1C83]), (0x442, [0x1C84, 0x1C85]), (0x44A, [0x1C86]),
    (0x463, [0x1C87]), (0x1C80, [0x432]), (0x1C81, [0x434]), (0x1C82, [0x43E]),
    (0x1C83, [0x441]), (0x1C84, [0x442, 0x1C85]), (0x1C85, [0x442, 0x1C84]), (0x1C86, [0x44A]),
    (0x1C87, [0x463]), (0x1C88, [0xA64B]), (0x1E61, [0x1E9B]), (0x1E9B, [0x1E61]),
    (0x1FBE, [0x345, 0x3B9]), (0x1FD3, [0x390]), (0x1FE3, [0x3B0]), (0xA64B, [0x1C88]),
    (0xFB05, [0xFB06]), (0xFB06, [0xFB05])]

/-- The other small letters with the same capital. -/
def sharing (n : Nat) : List Nat :=
  if n < 0x69 then [] else ((sharedCapitals.find? fun s => s.1 == n).map (·.2)).getD []

/-- How the case of letters is treated. -/
inductive Folding
  | exact
  | ascii
  | full
  deriving DecidableEq

def asciiLower (n : Nat) : Nat := if 0x41 ≤ n && n ≤ 0x5A then n + 32 else n

namespace Folding

/-- The code point that stands for all letters that differ from it in case alone. -/
def lower : Folding → Nat → Nat
  | exact, n => n
  | ascii, n => asciiLower n
  | full, n => lowerCode n

/-- Whether a letter with another case lies between two code points. -/
def casedBetween (f : Folding) (low high : Nat) : Bool :=
  match f with
  | exact => false
  | ascii => (low ≤ 0x5A && 0x41 ≤ high) || (low ≤ 0x7A && 0x61 ≤ high)
  | full => Text.casedBetween low high

def isCased (f : Folding) (n : Nat) : Bool := f.casedBetween n n

/-- Whether a folded character is the same letter as a code point of a pattern. -/
def sameLetter (f : Folding) (folded code : Nat) : Bool :=
  folded == f.lower code || (f == full && (sharing (f.lower code)).contains folded)

/-- Whether a character is the folded form of one between two code points. -/
def foldsInto (f : Folding) (low high folded : Nat) : Bool :=
  let inside n := low ≤ n && n ≤ high
  match f with
  | exact => inside folded
  | ascii => inside folded || (0x61 ≤ folded && folded ≤ 0x7A && inside (folded - 32))
  | full =>
    (folded :: sharing folded).any fun n => inside n || (capitalsOf n).any inside

/-- Whether a folded character belongs to a range. The part of a range beyond the basic plane is
not folded: a character belongs to such a range when it or its capital lies in it. -/
def rangeHolds (f : Folding) (low high folded : Nat) : Bool :=
  let inside n := low ≤ n && n ≤ high
  if f == exact then inside folded
  else f.foldsInto low (min high 0xFFFF) folded ||
    (0xFFFF < high && (inside folded || inside (upperCode folded)))

end Folding

def Category.holds (ascii : Bool) (category : Category) (n : Nat) : Bool :=
  let digit := if ascii then 0x30 ≤ n && n ≤ 0x39 else isDigit (Char.ofNat n)
  let space := if ascii then isLayout (Char.ofNat n) else isBlank (Char.ofNat n)
  let word := if ascii then n < 0x80 && isWordCharacter n else isWordCharacter n
  match category with
  | .digit => digit
  | .notDigit => !digit
  | .space => space
  | .notSpace => !space
  | .word => word
  | .notWord => !word

/-- Whether the case of letters makes a difference to a member of a class. -/
def Member.isCased (f : Folding) : Member → Bool
  | .code n => f.isCased n || (f != .exact && 0xFFFF < n)
  | .range low high => f.casedBetween low high || (f != .exact && 0xFFFF < high)
  | .category _ => false

/-- Whether a folded character belongs to a member of a class. Beyond the basic plane, a single
code point of a class is compared as it is written. -/
def Member.holds (f : Folding) (ascii : Bool) (member : Member) (folded : Nat) : Bool :=
  match member with
  | .code n => if n < 0x10000 then f.sameLetter folded n else folded == n
  | .range low high => f.rangeHolds low high folded
  | .category c => c.holds ascii folded

/-- Characters are folded before they are tested for a class when `cased`; the members of the class
are folded in any case. -/
inductive CharacterTest
  | any (newline : Bool)
  | one (negated : Bool) (folding : Folding) (code : Nat)
  | among (negated : Bool) (folding : Folding) (cased ascii : Bool) (members : List Member)
  deriving DecidableEq

namespace CharacterTest

def holds (test : CharacterTest) (c : Char) : Bool :=
  match test with
  | any newline => newline || c != '\n'
  | one negated folding code => folding.sameLetter (folding.lower c.toNat) code != negated
  | among negated folding cased ascii members =>
    let folded := if cased then folding.lower c.toNat else c.toNat
    (members.any fun m => m.holds folding ascii folded) != negated

/-- Whether the character at a position passes. -/
def holdsAt (test : CharacterTest) (text : Array Char) (position : Nat) : Bool :=
  text[position]?.any test.holds

/-- The test for one code point; letters without another case are compared as they are. -/
def ofCode (negated : Bool) (folding : Folding) (code : Nat) : CharacterTest :=
  one negated (if folding.isCased code then folding else .exact) code

def ofClass (negated : Bool) (folding : Folding) (ascii : Bool) (members : List Member) :
    CharacterTest :=
  among negated folding (members.any fun m => m.isCased folding) ascii members

/-- Whether a test is for one code point or for a class, without regard to case. -/
def isExact : CharacterTest → Bool
  | one false .exact _ => true
  | among _ _ cased _ _ => !cased
  | _ => false

/-- Whether a test is for a class in which letters count whatever their case. -/
def isFoldedClass : CharacterTest → Bool
  | among _ _ cased _ _ => cased
  | _ => false

/-- Whether a test is for one code point, without regard to case. -/
def isExactLetter : CharacterTest → Bool
  | one false .exact _ => true
  | _ => false

end CharacterTest

end DeviceAlerts.Pattern
