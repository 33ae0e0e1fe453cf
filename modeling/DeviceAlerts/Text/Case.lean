import DeviceAlerts.Text.Cased
import DeviceAlerts.Text.Lowercase

/-! Changing the case of a whole text. Two letters do not map on their own: the dotted capital I
becomes two characters, and a capital sigma that ends a word becomes the final sigma. -/

namespace DeviceAlerts.Text

/-- Whether a text begins with a cased letter, after what is passed over. -/
def startsCased (cs : List Char) : Bool := (cs.dropWhile isPassedOver).head?.any isCased

/-- The small letters of the text `before ++ rest`, where `before` is kept in reverse. -/
def lowercaseFrom (before : List Char) : List Char → List Char
  | [] => []
  | c :: rest =>
    let small :=
      if c.toNat == 0x130 then ['i', Char.ofNat 0x307]
      else if c.toNat == 0x3A3 then
        if startsCased before && !startsCased rest then [Char.ofNat 0x3C2]
        else [Char.ofNat 0x3C3]
      else [Char.ofNat (lowerCode c.toNat)]
    small ++ lowercaseFrom (c :: before) rest

def lowercase (s : String) : String := String.ofList (lowercaseFrom [] s.toList)

/-- The capital letter of a letter that has one within ASCII. -/
def asciiCapital (c : Char) : Char :=
  if c.toNat == 0x131 then 'I'
  else if c.toNat == 0x17F then 'S'
  else c.toUpper

/-- Capital letters within ASCII; the dotless i and the long s count as i and s. -/
def asciiUppercase (s : String) : String := String.ofList (s.toList.map asciiCapital)

end DeviceAlerts.Text
