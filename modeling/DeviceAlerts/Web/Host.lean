import DeviceAlerts.Text.HostLetter
import DeviceAlerts.Text.Punycode
import DeviceAlerts.Web.Escape

/-! Hosts in their normal form: four octets, eight groups of digits in brackets, or a name in small
letters, which is written in ASCII. -/

namespace DeviceAlerts.Web

open DeviceAlerts.Number DeviceAlerts.Text

/-- Why a text is no host. -/
inductive HostFault
  | octets
  | groups
  | name
  deriving DecidableEq

/-! ### Numbers -/

/-- Whether a text is made of digits with `parts` single characters between them. -/
def isDotted (parts : Nat) (started : Bool) : List Char → Bool
  | [] => started && parts == 0
  | c :: rest =>
    (isPlainDigit c && isDotted parts true rest) ||
      (started && 0 < parts && isDotted (parts - 1) false rest)

def isOctet (s : String) : Bool :=
  let cs := s.toList
  !cs.isEmpty && cs.length ≤ 3 && cs.all isPlainDigit && digitsValue cs ≤ 255 &&
    (cs.head? != some '0' || cs.length == 1)

def isFourOctets (cs : List Char) : Bool :=
  let parts := (String.ofList cs).splitOn "."
  parts.length == 4 && parts.all isOctet

def isGroup (s : String) : Bool := s != "" && s.length ≤ 4 && s.toList.all isHexDigit

/-- How many groups of sixteen bits a part of an address has, the last of which may be four
octets. -/
def groupCount? (s : String) (isLast : Bool) : Option Nat :=
  if s = "" then some 0
  else
    let parts := s.splitOn ":"
    if isLast && isFourOctets (parts.getLast?.getD "").toList && parts.dropLast.all isGroup then
      some (parts.length + 1)
    else if parts.all isGroup then some parts.length
    else none

/-- Whether a text is eight groups, of which one run of zeros may be left out. -/
def isEightGroups (cs : List Char) : Bool :=
  match (String.ofList cs).splitOn "::" with
  | [whole] => groupCount? whole true == some 8
  | [head, tail] =>
    match groupCount? head false, groupCount? tail true with
    | some m, some n => m + n ≤ 7
    | _, _ => false
  | _ => false

/-- Whether a text is eight groups, after which the name of a zone may stand. -/
def isZoned (cs : List Char) : Bool :=
  match (String.ofList cs).splitOn "%" with
  | [groups] => isEightGroups groups.toList
  | [groups, zone] => zone != "" && isEightGroups groups.toList
  | _ => false

/-! ### Names -/

/-- The mark of an ASCII form. -/
def asciiMark : List Char := "xn--".toList

def isPlain (c : Char) : Bool := c.toNat < 0x80

/-- The codes of the part of a host name that a text in ASCII stands for. -/
def labelOf? (cs : List Char) : Option (List Nat) :=
  if asciiMark.isPrefixOf cs then
    if cs.getLast? = some '-' then none else Punycode.decode? (cs.drop asciiMark.length)
  else some (cs.map Char.toNat)

/-- The ASCII form of a part of a host name. -/
def asciiLabel? (cs : List Char) : Option (List Char) := do
  let isWritten := cs.all isPlain
  let label ← if isWritten then labelOf? cs else some (cs.map Char.toNat)
  let ascii := if isWritten then cs else asciiMark ++ Punycode.encode cs
  if isHostLabel label && ascii.length ≤ 63 then some ascii else none

/-- The full stops of several scripts part a host name. -/
def plainStop (c : Char) : Char :=
  if [0x3002, 0xFF0E, 0xFF61].contains c.toNat then '.' else c

/-- The ASCII form of a host name, which may end with a full stop. -/
def asciiName? (cs : List Char) : Option (List Char) := do
  let labels := ((String.ofList (cs.map plainStop)).splitOn ".").map String.toList
  let trailing := 1 < labels.length && labels.getLast? = some []
  let done ← (if trailing then labels.dropLast else labels).mapM asciiLabel?
  let name := ['.'].intercalate (if trailing then done ++ [[]] else done)
  if name.length ≤ (if trailing then 254 else 253) then some name else none

/-- A host in its normal form. -/
def normalHost (cs : List Char) : Except HostFault (List Char) :=
  let small := (lowercase (String.ofList cs)).toList
  if isDotted 3 false cs then if isFourOctets cs then .ok cs else .error .octets
  else if cs.head? = some '[' && cs.getLast? = some ']' then
    if isZoned (cs.drop 1).dropLast then .ok cs else .error .groups
  else if cs.all isPlain then .ok (escapeAll isSafeInHost small)
  else (asciiName? small).elim (.error .name) .ok

end DeviceAlerts.Web
