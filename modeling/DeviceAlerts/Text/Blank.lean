/-! White space and its removal at both ends of a text. -/

namespace DeviceAlerts.Text

/-- White space outside the ASCII range. -/
def isWideBlank (c : Char) : Bool :=
  let n := c.toNat
  n == 0x85 || n == 0xA0 || n == 0x1680 || (0x2000 ≤ n && n ≤ 0x200A) || n == 0x2028 ||
    n == 0x2029 || n == 0x202F || n == 0x205F || n == 0x3000

/-- The space, tab, line feed, vertical tab, form feed and carriage return. -/
def isLayout (c : Char) : Bool := c.toNat == 0x20 || (9 ≤ c.toNat && c.toNat ≤ 13)

/-- All white space; the four information separators count too. -/
def isBlank (c : Char) : Bool :=
  isLayout c || (0x1C ≤ c.toNat && c.toNat ≤ 0x1F) || isWideBlank c

def trimBy (blank : Char → Bool) (cs : List Char) : List Char :=
  ((cs.dropWhile blank).reverse.dropWhile blank).reverse

/-- The text without the white space at its ends. -/
def trim (s : String) : String := String.ofList (trimBy isBlank s.toList)

end DeviceAlerts.Text
