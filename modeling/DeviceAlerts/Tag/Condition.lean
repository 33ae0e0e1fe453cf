import DeviceAlerts.Datum.Order
import DeviceAlerts.Pattern
import DeviceAlerts.Tag.Comparison

/-! What a tag looks for in a message: a regular expression, the group whose text is taken, and
the comparison of that text with an operand. Nothing is known of the four parts until they are
compiled, and a part of the wrong kind is found out as late as it is needed. -/

namespace DeviceAlerts

open DeviceAlerts.Number

structure Condition where
  regexp : Datum
  compareType : Datum
  value : Datum
  arrayIndex : Datum
  deriving DecidableEq

/-- A condition that can be looked for in texts. -/
structure Matcher where
  pattern : Pattern
  index : Datum
  comparison : Comparison
  deriving DecidableEq

namespace Condition

def alike (a b : Condition) : Bool :=
  a.regexp == b.regexp && a.compareType == b.compareType && a.value == b.value &&
    a.arrayIndex == b.arrayIndex

/-- The condition with another comparison. -/
def withType (c : Condition) (type : CompareType) : Condition :=
  { c with compareType := .text type.symbol }

/-! ### Compilation -/

inductive RegexpFault
  | notText
  | unhashable (kind : String)
  | malformed (cause : Pattern.Cause) (position : Option Nat)
  deriving DecidableEq

/-- Why a condition means nothing. -/
inductive Fault
  | unknownCompareType (given : Datum)
  | badRegexp (given : Datum) (fault : RegexpFault)
  deriving DecidableEq

/-- What is too large or contradictory to be compiled at all. -/
inductive Limit
  | hugeRepeat
  | clashingFlags
  | hugeNumber (digits : Nat)
  | hugeOperand
  | deepNesting
  deriving DecidableEq

inductive Obstacle
  | fault (fault : Fault)
  | limit (limit : Limit)
  deriving DecidableEq

def compileRegexp (regexp : Datum) : Except Obstacle Pattern :=
  match regexp with
  | .text source =>
    match Pattern.compile source with
    | .ok pattern => .ok pattern
    | .error (.malformed cause position) =>
      .error (.fault (.badRegexp regexp (.malformed cause position)))
    | .error .hugeRepeat => .error (.limit .hugeRepeat)
    | .error .clashingFlags => .error (.limit .clashingFlags)
    | .error (.hugeNumber digits) => .error (.limit (.hugeNumber digits))
    | .error .deepNesting => .error (.limit .deepNesting)
  | .list _ | .record _ => .error (.fault (.badRegexp regexp (.unhashable regexp.kind)))
  | _ => .error (.fault (.badRegexp regexp .notText))

def comparison (c : Condition) : Except Obstacle Comparison :=
  match CompareType.ofDatum? c.compareType with
  | none => .error (.fault (.unknownCompareType c.compareType))
  | some type =>
    match Comparison.make? type c.value with
    | some comparison => .ok comparison
    | none => .error (.limit .hugeOperand)

/-- The comparison is looked at first. -/
def compile (c : Condition) : Except Obstacle Matcher := do
  let comparison ← c.comparison
  let pattern ← compileRegexp c.regexp
  return ⟨pattern, c.arrayIndex, comparison⟩

def RegexpFault.message (source : Datum) : RegexpFault → String
  | notText => "first argument must be string or compiled pattern"
  | unhashable kind => "unhashable type: '" ++ kind ++ "'"
  | malformed cause position => Pattern.malformedText source.plain cause position

def Fault.message : Fault → String
  | unknownCompareType given => "unknown compare type " ++ given.quoted
  | badRegexp given fault => "invalid regexp " ++ given.quoted ++ ": " ++ fault.message given

def Limit.message : Limit → String
  | hugeRepeat => "the repetition number is too large"
  | clashingFlags => "ASCII and UNICODE flags are incompatible"
  | hugeNumber digits => (Datum.IntegerFault.numeral "" (.tooManyDigits digits)).message
  | hugeOperand => "int too large to convert to float"
  | deepNesting => "maximum recursion depth exceeded"

/-- The text of an unknown comparison where no tag is at hand. -/
def unknownTypeText (given : Datum) : String := given.quoted ++ " is not a valid CompareType"

end Condition

namespace Matcher

/-- Why nothing can be taken from a text. -/
inductive Breakdown
  | misuse (fault : Datum.Misuse)
  | noSuchGroup
  | search (fault : Pattern.SearchFault)
  deriving DecidableEq

def Breakdown.message : Breakdown → String
  | misuse fault => fault.message
  | noSuchGroup => "no such group"
  | search fault => fault.message

/-- The group that an index names, when the pattern has it. -/
def groupOf (index : Datum) (groups : Nat) : Except Breakdown (Option Nat) := do
  if ← (Datum.stands .below index (.int 0)).mapError .misuse then return none
  else if ← (Datum.stands .above index (.int groups)).mapError .misuse then return none
  else
    match index with
    | .int i => return some i.toNat
    | .bool b => return some b.toNat
    | _ => throw .noSuchGroup

/-- The text of the group at the index in the first match; the index is only looked at when there
is a match. -/
def extract (m : Matcher) (given : Datum) : Except Breakdown (Option String) :=
  match given with
  | .text text => do
    match ← (m.pattern.search text).mapError .search with
    | none => return none
    | some found =>
      match ← groupOf m.index m.pattern.groups with
      | none => return none
      | some group => return found.group? group
  | other => .error (.misuse (.noText other.kind))

/-- A text without the value fails the comparison. -/
def judgeFound (m : Matcher) : Option String → Judgement
  | none => .fails
  | some value => m.comparison.judge (.text value)

def judge (m : Matcher) (given : Datum) : Except Breakdown Judgement :=
  (m.extract given).map m.judgeFound

end Matcher

end DeviceAlerts
