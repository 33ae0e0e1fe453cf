import DeviceAlerts.Text.Quoted

/-! What can be wrong with a pattern. -/

namespace DeviceAlerts.Pattern

open DeviceAlerts.Text

inductive Cause
  | nothingToRepeat
  | multipleRepeat
  | repeatBoundsReversed
  | badEscape (escape : String)
  | trailingBackslash
  | incompleteEscape (escape : String)
  | octalOutOfRange (escape : String)
  | unknownCharacterName (name : String)
  | missing (what : String)
  | unterminatedName (closing : String)
  | badRange (range : String)
  | unterminatedSet
  | invalidReference (group : Nat)
  | openGroup
  | sameLookBehind
  | unterminatedGroup
  | unbalancedParenthesis
  | unexpectedEnd
  | unknownExtension (extension : String)
  | badGroupName (name : String)
  | redefinedGroup (name : String) (group was : Nat)
  | unknownGroup (name : String)
  | badGroupNumber
  | tooManyBranches
  | unterminatedComment
  | unknownFlag
  | flagOnAndOff
  | localeFlag
  | incompatibleFlags
  | repertoireOff
  | globalFlagOn
  | globalFlagOff
  | globalFlagsInside
  | variableLookBehind
  | longLookBehind
  | templateRepeat (name : String)
  deriving DecidableEq

def Cause.message : Cause → String
  | nothingToRepeat => "nothing to repeat"
  | multipleRepeat => "multiple repeat"
  | repeatBoundsReversed => "min repeat greater than max repeat"
  | badEscape escape => "bad escape " ++ escape
  | trailingBackslash => "bad escape (end of pattern)"
  | incompleteEscape escape => "incomplete escape " ++ escape
  | octalOutOfRange escape => "octal escape value " ++ escape ++ " outside of range 0-0o377"
  | unknownCharacterName name => "undefined character name " ++ quote name
  | missing what => "missing " ++ what
  | unterminatedName closing => "missing " ++ closing ++ ", unterminated name"
  | badRange range => "bad character range " ++ range
  | unterminatedSet => "unterminated character set"
  | invalidReference group => "invalid group reference " ++ toString group
  | openGroup => "cannot refer to an open group"
  | sameLookBehind => "cannot refer to group defined in the same lookbehind subpattern"
  | unterminatedGroup => "missing ), unterminated subpattern"
  | unbalancedParenthesis => "unbalanced parenthesis"
  | unexpectedEnd => "unexpected end of pattern"
  | unknownExtension extension => "unknown extension " ++ extension
  | badGroupName name => "bad character in group name " ++ quote name
  | redefinedGroup name group was =>
    "redefinition of group name " ++ quote name ++ " as group " ++ toString group ++
      "; was group " ++ toString was
  | unknownGroup name => "unknown group name " ++ quote name
  | badGroupNumber => "bad group number"
  | tooManyBranches => "conditional backref with more than two branches"
  | unterminatedComment => "missing ), unterminated comment"
  | unknownFlag => "unknown flag"
  | flagOnAndOff => "bad inline flags: flag turned on and off"
  | localeFlag => "bad inline flags: cannot use 'L' flag with a str pattern"
  | incompatibleFlags => "bad inline flags: flags 'a', 'u' and 'L' are incompatible"
  | repertoireOff => "bad inline flags: cannot turn off flags 'a', 'u' and 'L'"
  | globalFlagOn => "bad inline flags: cannot turn on global flag"
  | globalFlagOff => "bad inline flags: cannot turn off global flag"
  | globalFlagsInside => "global flags not at the start of the expression"
  | variableLookBehind => "look-behind requires fixed-width pattern"
  | longLookBehind => "looks too much behind"
  | templateRepeat name => "internal: unsupported template operator " ++ name

/-- Why a pattern is refused. Only a malformed one is refused for itself; the other causes are
limits that its author is not told about in terms of the pattern. -/
inductive Fault
  | malformed (cause : Cause) (position : Option Nat)
  | hugeRepeat
  | clashingFlags
  | hugeNumber (digits : Nat)
  | deepNesting
  deriving DecidableEq

/-- A position counts characters; in a pattern of several lines the line and column follow. -/
def positionText (pattern : String) (position : Nat) : String :=
  let before := pattern.toList.take position
  let line := before.count '\n' + 1
  let column := (before.reverse.takeWhile (· != '\n')).length + 1
  let place := " at position " ++ toString position
  if pattern.toList.contains '\n' then
    place ++ " (line " ++ toString line ++ ", column " ++ toString column ++ ")"
  else place

def malformedText (pattern : String) (cause : Cause) (position : Option Nat) : String :=
  cause.message ++ (match position with
    | some p => positionText pattern p
    | none => "")

end DeviceAlerts.Pattern
