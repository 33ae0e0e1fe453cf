/-! Tables of the names of characters. -/

namespace DeviceAlerts.Pattern

/-- The names of consecutive characters, separated by semicolons and ends of lines. A gap has no
name, and a name that begins with a digit repeats so many words of the name before it. -/
structure NameBlock where
  first : Nat
  lines : List String

/-- The words of a name as it is written behind the name with the given words. -/
def wordsBehind (before : List String) (written : String) : List String :=
  match written.toList with
  | c :: rest =>
    if '0' ≤ c && c ≤ '9' then
      before.take (c.toNat - 0x30) ++ (String.ofList rest).splitOn " "
    else written.splitOn " "
  | [] => before

/-- The place of a name among the names behind the one with the words `before`. -/
def placeOfName? (wanted : List String) (before : List String) : List String → Option Nat
  | [] => none
  | written :: rest =>
    let words := wordsBehind before written
    if written ≠ "" && words = wanted then some 0
    else (placeOfName? wanted words rest).map (· + 1)

/-- The code point of the character with the name of the given words. -/
def NameBlock.find? (block : NameBlock) (words : List String) : Option Nat :=
  (placeOfName? words [] (block.lines.flatMap (·.splitOn ";"))).map (block.first + ·)

end DeviceAlerts.Pattern
