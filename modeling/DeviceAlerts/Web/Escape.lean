import DeviceAlerts.Number.Numeral
import DeviceAlerts.Text.Quoted

/-! Escapes in addresses on the web: a percent sign and the two digits of a byte. -/

namespace DeviceAlerts.Web

open DeviceAlerts.Number DeviceAlerts.Text

def isHexDigit (c : Char) : Bool :=
  isPlainDigit c || ('a' ≤ c && c ≤ 'f') || ('A' ≤ c && c ≤ 'F')

/-- The escapes of the bytes of a character. -/
def escapeCharacter (c : Char) : List Char :=
  (String.singleton c).toUTF8.toList.flatMap fun b =>
    '%' :: (hexadecimal 2 b.toNat).map Char.toUpper

/-- Escapes all characters but the safe ones; escapes that are there already are kept. -/
def escapeAll (isSafe : Char → Bool) : List Char → List Char
  | [] => []
  | '%' :: a :: b :: rest =>
    if isHexDigit a && isHexDigit b then '%' :: a :: b :: escapeAll isSafe rest
    else (if isSafe '%' then ['%'] else escapeCharacter '%') ++ escapeAll isSafe (a :: b :: rest)
  | c :: rest => (if isSafe c then [c] else escapeCharacter c) ++ escapeAll isSafe rest
  termination_by cs => cs.length

/-- ASCII characters that print, apart from some. -/
def isPlainExcept (others : String) (c : Char) : Bool :=
  0x20 < c.toNat && c.toNat < 0x7F && !others.toList.contains c

def isSafeInQuery : Char → Bool := isPlainExcept "\x22#<>"

def isSafeInPath : Char → Bool := isPlainExcept "\x22#<>?`\x7b\x7d"

def isSafeInUser : Char → Bool := isPlainExcept "\x22#<>?`\x7b\x7d/;=@[\\]^|"

def isSafeInFragment : Char → Bool := isPlainExcept "\x22<>`"

def isSafeInHost (c : Char) : Bool :=
  c.isAlphanum || ("-._~!$&\x27()*+,;=" ++ "\x22`\x7b\x7d%|\\").toList.contains c

end DeviceAlerts.Web
