import DeviceAlerts.Pattern.Leading
import DeviceAlerts.Pattern.Reader
import DeviceAlerts.Pattern.Search

/-! Regular expressions: a pattern is read once and then searched for in texts. Group zero is the
whole match. -/

namespace DeviceAlerts

/-- A pattern that can be searched for; every match has `least` characters or more. -/
structure Pattern where
  chain : Pattern.Chain
  leading : Option Pattern.CharacterTest
  least : Nat
  groups : Nat
  deriving DecidableEq

namespace Pattern

def compile (source : String) : Except Fault Pattern := do
  let parsed ← parse source
  match parsed.tree.resolve parsed.flags with
  | .ok node =>
    return ⟨node.chain .done, parsed.tree.leadingTest? parsed.flags, parsed.tree.width.least,
      parsed.groups⟩
  | .error cause => throw (.malformed cause none)

/-- The place of a match in a text, and what its groups took. -/
structure Match where
  text : Array Char
  start : Nat
  memory : Memory

namespace Match

def slice (m : Match) (start stop : Nat) : String :=
  String.ofList (m.text.extract start stop).toList

def group? (m : Match) (group : Nat) : Option String :=
  if group = 0 then some (m.slice m.start m.memory.position)
  else (m.memory.taken? group).map fun part => m.slice part.1 part.2

/-- Whether a group ends before it starts. -/
def isReversed (m : Match) (group : Nat) : Bool :=
  match m.memory.marks[2 * group - 2]?, m.memory.marks[2 * group - 1]? with
  | some (some start), some (some stop) => stop < start
  | _, _ => false

end Match

/-- A search found a group whose end lies before its start. -/
inductive SearchFault
  | reversedGroup
  deriving DecidableEq

def SearchFault.message : SearchFault → String
  | reversedGroup =>
    "The span of capturing group is wrong, please report a bug for the re module."

/-- The first match in a text. -/
def search (pattern : Pattern) (text : String) : Except SearchFault (Option Match) :=
  let characters := text.toList.toArray
  let tries := if characters.size < pattern.least then 0
    else characters.size + 1 - (pattern.least - 1)
  match pattern.chain.searchFrom pattern.leading characters tries 0 with
  | none => .ok none
  | some (start, memory) =>
    let found : Match := ⟨characters, start, memory⟩
    if (List.range pattern.groups).any fun n => found.isReversed (n + 1) then
      .error .reversedGroup
    else .ok (some found)

end Pattern

end DeviceAlerts
