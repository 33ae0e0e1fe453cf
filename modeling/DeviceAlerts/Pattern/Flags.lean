/-! The flags that a pattern can turn on for itself or for a part of it. -/

namespace DeviceAlerts.Pattern

structure Flags where
  ignoreCase : Bool := false
  multiline : Bool := false
  dotAll : Bool := false
  verbose : Bool := false
  ascii : Bool := false
  unicode : Bool := false
  template : Bool := false
  deriving DecidableEq

namespace Flags

def union (a b : Flags) : Flags where
  ignoreCase := a.ignoreCase || b.ignoreCase
  multiline := a.multiline || b.multiline
  dotAll := a.dotAll || b.dotAll
  verbose := a.verbose || b.verbose
  ascii := a.ascii || b.ascii
  unicode := a.unicode || b.unicode
  template := a.template || b.template

def minus (a b : Flags) : Flags where
  ignoreCase := a.ignoreCase && !b.ignoreCase
  multiline := a.multiline && !b.multiline
  dotAll := a.dotAll && !b.dotAll
  verbose := a.verbose && !b.verbose
  ascii := a.ascii && !b.ascii
  unicode := a.unicode && !b.unicode
  template := a.template && !b.template

def intersects (a b : Flags) : Bool :=
  (a.ignoreCase && b.ignoreCase) || (a.multiline && b.multiline) || (a.dotAll && b.dotAll) ||
    (a.verbose && b.verbose) || (a.ascii && b.ascii) || (a.unicode && b.unicode) ||
    (a.template && b.template)

/-- Whether the flags choose a character repertoire. -/
def choosesRepertoire (f : Flags) : Bool := f.ascii || f.unicode

/-- The flags inside a group that turns some on and some off; choosing a repertoire replaces the
one chosen before. -/
def within (f on off : Flags) : Flags :=
  let f := if on.choosesRepertoire then { f with ascii := false, unicode := false } else f
  (f.union on).minus off

/-- The flag of a letter. -/
def ofLetter? (c : Char) : Option Flags :=
  if c == 'i' then some { ignoreCase := true }
  else if c == 'm' then some { multiline := true }
  else if c == 's' then some { dotAll := true }
  else if c == 'x' then some { verbose := true }
  else if c == 'a' then some { ascii := true }
  else if c == 'u' then some { unicode := true }
  else if c == 't' then some { template := true }
  else none

end Flags

end DeviceAlerts.Pattern
