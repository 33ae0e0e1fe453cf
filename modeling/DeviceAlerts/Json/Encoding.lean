import DeviceAlerts.Text.Utf8

/-! The characters of a JSON text that comes as bytes. Which encoding it is in shows in the zeros
among its first four bytes, for the first two characters are always ASCII. -/

namespace DeviceAlerts.Json

open DeviceAlerts.Text

inductive Encoding
  | utf8
  | utf16 (bigEndian : Bool)
  | utf32 (bigEndian : Bool)
  deriving DecidableEq

namespace Encoding

def ofBytes : List UInt8 → Encoding
  | a :: b :: c :: d :: _ =>
    if a = 0 then if b = 0 then utf32 true else utf16 true
    else if b = 0 then if c = 0 ∧ d = 0 then utf32 false else utf16 false
    else utf8
  | [a, b] => if a = 0 then utf16 true else if b = 0 then utf16 false else utf8
  | _ => utf8

/-- The number that several bytes stand for. -/
def number (bigEndian : Bool) (bytes : List UInt8) : Nat :=
  (if bigEndian then bytes else bytes.reverse).foldl (fun n b => 256 * n + b.toNat) 0

/-- The numbers of two bytes each; a byte that is left over is a fault. -/
def pairs? (bigEndian : Bool) : List UInt8 → Option (List Nat)
  | [] => some []
  | a :: b :: rest => (pairs? bigEndian rest).map (number bigEndian [a, b] :: ·)
  | [_] => none

/-- The numbers of four bytes each; bytes that are left over are a fault. -/
def quadruples? (bigEndian : Bool) : List UInt8 → Option (List Nat)
  | [] => some []
  | a :: b :: c :: d :: rest =>
    (quadruples? bigEndian rest).map (number bigEndian [a, b, c, d] :: ·)
  | _ => none

/-- A code that is no character on its own is shown as the replacement character. -/
def character (n : Nat) : Char := if 0xD800 ≤ n ∧ n ≤ 0xDFFF then '\uFFFD' else Char.ofNat n

/-- The characters of code units, two of which may make one character. -/
def joinUnits : List Nat → List Char
  | [] => []
  | [n] => [character n]
  | n :: m :: rest =>
    if 0xD800 ≤ n ∧ n ≤ 0xDBFF ∧ 0xDC00 ≤ m ∧ m ≤ 0xDFFF then
      Char.ofNat (0x10000 + (n - 0xD800) * 0x400 + (m - 0xDC00)) :: joinUnits rest
    else character n :: joinUnits (m :: rest)

/-- Text in UTF-8 may begin with a byte order mark. -/
def withoutMark : List Char → List Char
  | '\uFEFF' :: rest => rest
  | cs => cs

def decode? (bytes : List UInt8) : Encoding → Option (List Char)
  | utf8 => some (withoutMark (decodeUtf8 bytes))
  | utf16 bigEndian => (pairs? bigEndian bytes).map joinUnits
  | utf32 bigEndian => do
    let codes ← quadruples? bigEndian bytes
    if codes.all fun n => n < 0x110000 then some (codes.map character) else none

end Encoding

/-- The characters of a text whose bytes may be meant in another encoding. -/
def characters? (s : String) : Option (List Char) :=
  let bytes := s.toUTF8.toList
  (Encoding.ofBytes bytes).decode? bytes

end DeviceAlerts.Json
