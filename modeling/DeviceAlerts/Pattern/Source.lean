import DeviceAlerts.Pattern.Fault

/-! A pattern as a sequence of tokens. A token is one character, or a backslash with the character
it escapes, and the next token is always known: a backslash with nothing after it is a fault as
soon as it would be next. -/

namespace DeviceAlerts.Pattern

/-- A token as its characters: one, or a backslash and one more. -/
abbrev Token := List Char

structure Source where
  pattern : Array Char
  /-- Where the token after the next one starts. -/
  index : Nat
  next : Option Token

namespace Source

/-- Reads the token at an index. -/
def seek (pattern : Array Char) (index : Nat) : Except Fault Source :=
  match pattern[index]? with
  | none => .ok ⟨pattern, index, none⟩
  | some '\\' =>
    match pattern[index + 1]? with
    | some c => .ok ⟨pattern, index + 2, some ['\\', c]⟩
    | none => .error (.malformed .trailingBackslash (some (pattern.size - 1)))
  | some c => .ok ⟨pattern, index + 1, some [c]⟩

def start (pattern : String) : Except Fault Source := seek pattern.toList.toArray 0

def advance (s : Source) : Except Fault Source := seek s.pattern s.index

/-- The position of the next token. -/
def position (s : Source) : Nat := s.index - (s.next.map List.length).getD 0

/-- Whether the next token is the given character. -/
def nextIs (s : Source) (c : Char) : Bool := s.next == some [c]

end Source

end DeviceAlerts.Pattern
