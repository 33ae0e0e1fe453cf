import DeviceAlerts.Datum

/-! Writing JSON on one line in ASCII. Characters beyond ASCII are written as code units, and a
moment as its ISO text. -/

namespace DeviceAlerts.Json

open DeviceAlerts.Text

def unitText (n : Nat) : List Char := '\\' :: 'u' :: hexadecimal 4 n

def characterText (c : Char) : List Char :=
  let n := c.toNat
  if c == '\x22' || c == '\\' then ['\\', c]
  else if 0x20 ≤ n && n < 0x7F then [c]
  else if n < 0x10000 then unitText n
  else unitText (0xD800 + (n - 0x10000) / 0x400) ++ unitText (0xDC00 + (n - 0x10000) % 0x400)

def stringText (s : String) : String :=
  "\x22" ++ String.ofList (s.toList.flatMap characterText) ++ "\x22"

/-- The words for NaN and the infinities are those that readers accept. -/
def numberText (x : Number.Binary64) : String :=
  if x.isNaN then "NaN"
  else if x.isFinite then x.text
  else if x.lt .zero then "-Infinity" else "Infinity"

mutual
/-- The JSON text of a value. -/
def write : Datum → String
  | .null => "null"
  | .bool b => if b then "true" else "false"
  | .int i => toString i
  | .float x => numberText x
  | .text s => stringText s
  | .garbled => stringText "\uFFFD"
  | .moment m => stringText m.text
  | .list xs => "[" ++ writeItems xs ++ "]"
  | .record fs => "\x7b" ++ writeMembers fs ++ "\x7d"

def writeItems : List Datum → String
  | [] => ""
  | [x] => write x
  | x :: y :: rest => write x ++ "," ++ writeItems (y :: rest)

def writeMembers : List (String × Datum) → String
  | [] => ""
  | [(k, x)] => stringText k ++ ":" ++ write x
  | (k, x) :: y :: rest => stringText k ++ ":" ++ write x ++ "," ++ writeMembers (y :: rest)
end

end DeviceAlerts.Json
