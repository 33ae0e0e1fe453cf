import DeviceAlerts.Pattern.Machine

/-! The class that a pattern begins with. A search passes over the places where none of its
characters stands, and there the class is read under the flags of the whole pattern, also when it
is written in a group with flags of its own. Only the repertoire of a class can make a
difference. -/

namespace DeviceAlerts.Pattern

/-- Whether a class means the same whatever the case of letters. -/
def Member.isCaseless (f : Folding) : Member → Bool
  | .code n => !f.isCased n
  | .range low high =>
    f == .exact || (high ≤ 0xFFFF && !f.casedBetween low high)
  | .category _ => true

/-- The class at the beginning of a tree outside of all groups that do more than bracket. -/
def Tree.openingClass? : Tree → Option (Bool × List Member)
  | .charset negated members => some (negated, members)
  | .concat first second =>
    if first.items.isEmpty then second.openingClass? else first.openingClass?
  | .group none on off body => if on == {} && off == {} then body.openingClass? else none
  | _ => none

/-- The class at the beginning of a tree, with the flags that hold there. -/
def Tree.leadingClass? (flags : Flags) : Tree → Option (Flags × Bool × List Member)
  | .concat first second =>
    if first.items.isEmpty then second.leadingClass? flags else first.leadingClass? flags
  | .group _ on off body => body.leadingClass? (flags.within on off)
  | t => t.openingClass?.map fun opening => (flags, opening)

/-- What the first character of a match has to pass besides the pattern itself. -/
def Tree.leadingTest? (flags : Flags) (t : Tree) : Option CharacterTest :=
  match t.leadingClass? flags with
  | some (inner, negated, members) =>
    if inner.unicode != flags.unicode && members.all fun m => m.isCaseless inner.folding then
      some (.ofClass negated .exact (!flags.unicode) members)
    else none
  | none => none

end DeviceAlerts.Pattern
