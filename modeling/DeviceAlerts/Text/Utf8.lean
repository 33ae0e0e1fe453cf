/-! Characters as bytes in UTF-8. -/

namespace DeviceAlerts.Text

def isContinuation (b : UInt8) : Bool := 0x80 ≤ b && b < 0xC0

/-- How many bytes the character that starts with a byte has, and the value of its first bits. -/
def lead? (b : UInt8) : Option (Nat × Nat) :=
  let n := b.toNat
  if n < 0x80 then some (1, n)
  else if 0xC2 ≤ n && n < 0xE0 then some (2, n - 0xC0)
  else if 0xE0 ≤ n && n < 0xF0 then some (3, n - 0xE0)
  else if 0xF0 ≤ n && n < 0xF5 then some (4, n - 0xF0)
  else none

/-- Whether a second byte can follow the first one. -/
def fitsSecond (first second : UInt8) : Bool :=
  isContinuation second &&
    !(first == 0xE0 && second < 0xA0) && !(first == 0xED && 0xA0 ≤ second) &&
    !(first == 0xF0 && second < 0x90) && !(first == 0xF4 && 0x90 ≤ second)

/-- How many of the bytes after the first belong to its character. -/
def followers (first : UInt8) (wanted : Nat) (rest : List UInt8) : Nat :=
  match rest with
  | second :: more =>
    if fitsSecond first second then 1 + ((more.take (wanted - 1)).takeWhile isContinuation).length
    else 0
  | [] => 0

/-- The characters of bytes in UTF-8; bytes that are none become the replacement character. -/
def decodeUtf8 : List UInt8 → List Char
  | [] => []
  | b :: rest =>
    match lead? b with
    | none => '\uFFFD' :: decodeUtf8 rest
    | some (size, bits) =>
      if size = 1 then Char.ofNat bits :: decodeUtf8 rest
      else
        let found := followers b (size - 1) rest
        let c := if found = size - 1
          then Char.ofNat ((rest.take found).foldl (fun n b => 64 * n + (b.toNat - 0x80)) bits)
          else '\uFFFD'
        c :: decodeUtf8 (rest.drop found)
  termination_by bs => bs.length
  decreasing_by all_goals simp_wf; try omega

end DeviceAlerts.Text
