import DeviceAlerts.Text.Case
import DeviceAlerts.Text.Composition
import DeviceAlerts.Text.Digit
import DeviceAlerts.Text.Identifier
import DeviceAlerts.Text.Joining

/-! The characters of which parts of host names consist. Letters that only stand for other letters
are none of them, some characters need certain others around them, and letters that are written from
right to left do not mix with those of the other direction. -/

namespace DeviceAlerts.Text

/-- Letters, digits and marks that have no place in host names. -/
def unfitForHostsRanges : Ranges :=
  #[
    (0xAA, 0xAA), (0xB5, 0xB5), (0xBA, 0xBA), (0x133, 0x133), (0x140, 0x140), (0x149, 0x149),
    (0x17F, 0x17F), (0x1C6, 0x1C6), (0x1C9, 0x1C9), (0x1CC, 0x1CC), (0x1F3, 0x1F3), (0x2B0, 0x2B8),
    (0x2E0, 0x2E4), (0x340, 0x341), (0x343, 0x345), (0x34F, 0x34F), (0x374, 0x374), (0x387, 0x387),
    (0x3D0, 0x3D6), (0x3F0, 0x3F2), (0x3F5, 0x3F5), (0x587, 0x587), (0x640, 0x640), (0x675, 0x678),
    (0x7FA, 0x7FA), (0x958, 0x95F), (0x9DC, 0x9DD), (0x9DF, 0x9DF), (0xA33, 0xA33), (0xA36, 0xA36),
    (0xA59, 0xA5B), (0xA5E, 0xA5E), (0xB5C, 0xB5D), (0xE33, 0xE33), (0xEB3, 0xEB3), (0xEDC, 0xEDD),
    (0xF43, 0xF43), (0xF4D, 0xF4D), (0xF52, 0xF52), (0xF57, 0xF57), (0xF5C, 0xF5C), (0xF69, 0xF69),
    (0xF73, 0xF73), (0xF75, 0xF79), (0xF81, 0xF81), (0xF93, 0xF93), (0xF9D, 0xF9D), (0xFA2, 0xFA2),
    (0xFA7, 0xFA7), (0xFAC, 0xFAC), (0xFB9, 0xFB9), (0x10FC, 0x10FC), (0x1100, 0x11FF),
    (0x1369, 0x1371), (0x13F8, 0x13FD), (0x16EE, 0x16F0), (0x17B4, 0x17B5), (0x180B, 0x180D),
    (0x180F, 0x180F), (0x19DA, 0x19DA), (0x1C80, 0x1C88), (0x1D2C, 0x1D2E), (0x1D30, 0x1D3A),
    (0x1D3C, 0x1D4D), (0x1D4F, 0x1D6A), (0x1D78, 0x1D78), (0x1D9B, 0x1DBF), (0x1E9A, 0x1E9B),
    (0x1F71, 0x1F71), (0x1F73, 0x1F73), (0x1F75, 0x1F75), (0x1F77, 0x1F77), (0x1F79, 0x1F79),
    (0x1F7B, 0x1F7B), (0x1F7D, 0x1F7D), (0x1F80, 0x1F87), (0x1F90, 0x1F97), (0x1FA0, 0x1FA7),
    (0x1FB2, 0x1FB4), (0x1FB7, 0x1FB7), (0x1FBE, 0x1FBE), (0x1FC2, 0x1FC4), (0x1FC7, 0x1FC7),
    (0x1FD3, 0x1FD3), (0x1FE3, 0x1FE3), (0x1FF2, 0x1FF4), (0x1FF7, 0x1FF7), (0x203F, 0x2040),
    (0x2054, 0x2054), (0x2071, 0x2071), (0x207F, 0x207F), (0x2090, 0x209C), (0x20D0, 0x20DC),
    (0x20E1, 0x20E1), (0x20E5, 0x20F0), (0x2102, 0x2102), (0x2107, 0x2107), (0x210A, 0x2113),
    (0x2115, 0x2115), (0x2118, 0x211D), (0x2124, 0x2124), (0x2128, 0x2128), (0x212C, 0x2131),
    (0x2133, 0x2139), (0x213C, 0x213F), (0x2145, 0x2149), (0x2170, 0x2182), (0x2185, 0x2188),
    (0x2C7C, 0x2C7D), (0x2D6F, 0x2D6F), (0x3021, 0x3029), (0x302E, 0x302F), (0x3031, 0x3035),
    (0x3038, 0x303B), (0x309F, 0x309F), (0x30FF, 0x30FF), (0x3131, 0x318E), (0xA69C, 0xA69D),
    (0xA6E6, 0xA6EF), (0xA770, 0xA770), (0xA7F2, 0xA7F4), (0xA7F8, 0xA7F9), (0xA960, 0xA97C),
    (0xAB5C, 0xAB5F), (0xAB69, 0xAB69), (0xAB70, 0xABBF), (0xD7B0, 0xD7C6), (0xD7CB, 0xD7FB),
    (0xF900, 0xFA0D), (0xFA10, 0xFA10), (0xFA12, 0xFA12), (0xFA15, 0xFA1E), (0xFA20, 0xFA20),
    (0xFA22, 0xFA22), (0xFA25, 0xFA26), (0xFA2A, 0xFA6D), (0xFA70, 0xFAD9), (0xFB00, 0xFB06),
    (0xFB13, 0xFB17), (0xFB1D, 0xFB1D), (0xFB1F, 0xFB28), (0xFB2A, 0xFB36), (0xFB38, 0xFB3C),
    (0xFB3E, 0xFB3E), (0xFB40, 0xFB41), (0xFB43, 0xFB44), (0xFB46, 0xFBB1), (0xFBD3, 0xFC5D),
    (0xFC64, 0xFD3D), (0xFD50, 0xFD8F), (0xFD92, 0xFDC7), (0xFDF0, 0xFDF9), (0xFE00, 0xFE0F),
    (0xFE33, 0xFE34), (0xFE4D, 0xFE4F), (0xFE71, 0xFE71), (0xFE77, 0xFE77), (0xFE79, 0xFE79),
    (0xFE7B, 0xFE7B), (0xFE7D, 0xFE7D), (0xFE7F, 0xFEFC), (0xFF10, 0xFF19), (0xFF3F, 0xFF3F),
    (0xFF41, 0xFF5A), (0xFF66, 0xFFBE), (0xFFC2, 0xFFC7), (0xFFCA, 0xFFCF), (0xFFD2, 0xFFD7),
    (0xFFDA, 0xFFDC), (0x10140, 0x10174), (0x10341, 0x10341), (0x1034A, 0x1034A),
    (0x103D1, 0x103D5), (0x10781, 0x10785), (0x10787, 0x107B0), (0x107B2, 0x107BA),
    (0x12400, 0x1246E), (0x1D165, 0x1D169), (0x1D16D, 0x1D172), (0x1D17B, 0x1D182),
    (0x1D185, 0x1D18B), (0x1D1AA, 0x1D1AD), (0x1D242, 0x1D244), (0x1D400, 0x1D454),
    (0x1D456, 0x1D49C), (0x1D49E, 0x1D49F), (0x1D4A2, 0x1D4A2), (0x1D4A5, 0x1D4A6),
    (0x1D4A9, 0x1D4AC), (0x1D4AE, 0x1D4B9), (0x1D4BB, 0x1D4BB), (0x1D4BD, 0x1D4C3),
    (0x1D4C5, 0x1D505), (0x1D507, 0x1D50A), (0x1D50D, 0x1D514), (0x1D516, 0x1D51C),
    (0x1D51E, 0x1D539), (0x1D53B, 0x1D53E), (0x1D540, 0x1D544), (0x1D546, 0x1D546),
    (0x1D54A, 0x1D550), (0x1D552, 0x1D6A5), (0x1D6A8, 0x1D6C0), (0x1D6C2, 0x1D6DA),
    (0x1D6DC, 0x1D6FA), (0x1D6FC, 0x1D714), (0x1D716, 0x1D734), (0x1D736, 0x1D74E),
    (0x1D750, 0x1D76E), (0x1D770, 0x1D788), (0x1D78A, 0x1D7A8), (0x1D7AA, 0x1D7C2),
    (0x1D7C4, 0x1D7CB), (0x1D7CE, 0x1D7FF), (0x1EE00, 0x1EE03), (0x1EE05, 0x1EE1F),
    (0x1EE21, 0x1EE22), (0x1EE24, 0x1EE24), (0x1EE27, 0x1EE27), (0x1EE29, 0x1EE32),
    (0x1EE34, 0x1EE37), (0x1EE39, 0x1EE39), (0x1EE3B, 0x1EE3B), (0x1EE42, 0x1EE42),
    (0x1EE47, 0x1EE47), (0x1EE49, 0x1EE49), (0x1EE4B, 0x1EE4B), (0x1EE4D, 0x1EE4F),
    (0x1EE51, 0x1EE52), (0x1EE54, 0x1EE54), (0x1EE57, 0x1EE57), (0x1EE59, 0x1EE59),
    (0x1EE5B, 0x1EE5B), (0x1EE5D, 0x1EE5D), (0x1EE5F, 0x1EE5F), (0x1EE61, 0x1EE62),
    (0x1EE64, 0x1EE64), (0x1EE67, 0x1EE6A), (0x1EE6C, 0x1EE72), (0x1EE74, 0x1EE77),
    (0x1EE79, 0x1EE7C), (0x1EE7E, 0x1EE7E), (0x1EE80, 0x1EE89), (0x1EE8B, 0x1EE9B),
    (0x1EEA1, 0x1EEA3), (0x1EEA5, 0x1EEA9), (0x1EEAB, 0x1EEBB), (0x1FBF0, 0x1FBF9),
    (0x2F800, 0x2FA1D), (0xE0100, 0xE01EF)]

/-- Characters that are fit for host names although they are no letters. -/
def fitForHosts : List Nat := [0x2D, 0x6FD, 0x6FE, 0xF0B, 0x2E2F]

/-- Whether a character may stand in any part of a host name. -/
def isFit (n : Nat) : Bool :=
  fitForHosts.contains n ||
    (isIdentifierContinue n && n != 0x5F && lowerCode n == n && !unfitForHostsRanges.contains n)

/-! ### Characters that need others -/

/-- Arabic digits, of which there are two series. -/
def isArabicDigit (n : Nat) : Bool := 0x660 ≤ n && n ≤ 0x669

def isEasternDigit (n : Nat) : Bool := 0x6F0 ≤ n && n ≤ 0x6F9

def greekRanges : Ranges :=
  #[(0x370, 0x373), (0x375, 0x377), (0x37B, 0x37D), (0x384, 0x3E1), (0x3F0, 0x3FF),
    (0x1D26, 0x1D2A), (0x1F00, 0x1FFE), (0xAB65, 0xAB65)]

def hebrewRanges : Ranges := #[(0x591, 0x5F4), (0xFB1D, 0xFB4F)]

def kanaRanges : Ranges :=
  #[(0x3041, 0x3096), (0x309D, 0x309F), (0x30A1, 0x30FA), (0x30FD, 0x30FF), (0x31F0, 0x31FF),
    (0x1AFF0, 0x1B122), (0x1B150, 0x1B152), (0x1B164, 0x1B167)]

def ideographRanges : Ranges :=
  #[(0x3005, 0x3005), (0x3007, 0x3007), (0x3400, 0x4DBF), (0x4E00, 0x9FFF), (0xFA0E, 0xFA29),
    (0x16FE3, 0x16FE3), (0x16FF0, 0x16FF1), (0x20000, 0x3134A)]

/-- The class of marks that take the vowel from a letter. -/
def viramaClass : Nat := 9

/-- Whether a character may stand in a part of a host name between `before`, which is in reverse
order, and `after`. -/
def isFitBetween (before : List Nat) (n : Nat) (after : List Nat) : Bool :=
  match n with
  | 0xB7 => before.head? = some 0x6C && after.head? = some 0x6C
  | 0x375 => after.head?.any greekRanges.contains
  | 0x5F3 | 0x5F4 => before.head?.any hebrewRanges.contains
  | 0x200C => before.head?.any (markClass · = viramaClass) || isJoined before after
  | 0x200D => before.head?.any (markClass · = viramaClass)
  | 0x30FB => (before ++ after).any fun m => kanaRanges.contains m || ideographRanges.contains m
  | n =>
    if isArabicDigit n then !(before ++ after).any isEasternDigit
    else if isEasternDigit n then !(before ++ after).any isArabicDigit
    else isFit n

/-- Whether every character of a text may stand where it does; `before` is in reverse order. -/
def areFitAfter (before : List Nat) : List Nat → Bool
  | [] => true
  | n :: rest => isFitBetween before n rest && areFitAfter (n :: before) rest

/-! ### Parts of host names -/

/-- Marks belong to the character before them. -/
def isCombining (n : Nat) : Bool :=
  markRanges.contains n ||
    (isIdentifierContinue n && !isIdentifierStart n && !isDigit (Char.ofNat n))

/-- Hyphens stand neither at the ends of a part nor at its third and fourth place. -/
def isHyphenated (all : List Nat) : Bool :=
  all.head? = some 0x2D || all.getLast? = some 0x2D || (all.drop 2).take 2 = [0x2D, 0x2D]

/-- Whether a text can be a part of a host name. -/
def isHostLabel (all : List Nat) : Bool :=
  !all.isEmpty && !isHyphenated all && !all.head?.any isCombining && areFitAfter [] all &&
    isOneWay (all.map direction) && isComposed all

end DeviceAlerts.Text
