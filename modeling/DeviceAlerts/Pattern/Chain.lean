import DeviceAlerts.Pattern.Machine

/-! Patterns as chains of steps, in which every step knows what comes after it. A repetition of a
single character is a step of its own, and a group is a mark at its start and one at its end. -/

namespace DeviceAlerts.Pattern

inductive Chain
  | done
  | character (test : CharacterTest) (next : Chain)
  | place (place : Place) (next : Chain)
  /-- Notes the position; the group of number `n` has the marks `2 * n - 2` and `2 * n - 1`. -/
  | mark (index : Nat) (next : Chain)
  | branch (options next : Chain)
  /-- One option of a branch, and the branch of the others. -/
  | option (first others : Chain)
  /-- The branch that has no more options. -/
  | never
  /-- A single character, repeated. -/
  | characters (mode : Mode) (least : Nat) (most : Option Nat) (test : CharacterTest)
      (next : Chain)
  | repetition (mode : Mode) (least : Nat) (most : Option Nat) (body next : Chain)
  | atomic (body next : Chain)
  /-- A look at what follows the position that lies `back` characters before the present one. -/
  | look (negated : Bool) (back : Nat) (body next : Chain)
  | reference (folding : Folding) (group : Nat) (next : Chain)
  | conditional (group : Nat) (present absent next : Chain)
  deriving DecidableEq

/-- The chain of a pattern in front of another one. -/
def Node.chain : Node → Chain → Chain
  | .empty, next => next
  | .character test, next => .character test next
  | .place p, next => .place p next
  | .concat a b, next => a.chain (b.chain next)
  | .choice a b, next => .branch (.option (a.chain .done) (b.chain .done)) next
  | .never, _ => .never
  | .repetition mode least most (.character test), next => .characters mode least most test next
  | .repetition mode least most body, next => .repetition mode least most (body.chain .done) next
  | .capture group body, next =>
    .mark (2 * group - 2) (body.chain (.mark (2 * group - 1) next))
  | .atomic body, next => .atomic (body.chain .done) next
  | .lookAhead negated body, next => .look negated 0 (body.chain .done) next
  | .lookBehind negated width body, next => .look negated width (body.chain .done) next
  | .reference folding group, next => .reference folding group next
  | .conditional group present absent, next =>
    .conditional group (present.chain .done) (absent.chain .done) next

namespace Chain

/-- What the next character has to pass, when a chain begins with a test that is exact; `after` is
what has to pass behind the chain. -/
def firstLetter? (after : Option CharacterTest) : Chain → Option CharacterTest
  | done => after
  | character test _ => if test.isExactLetter then some test else none
  | _ => none

/-- Whether the beginning of a chain shows that it cannot match at a position. -/
def isBarred (text : Array Char) (position : Nat) : Chain → Bool
  | character test _ => test.isExact && !test.holdsAt text position
  | _ => false

end Chain

end DeviceAlerts.Pattern
