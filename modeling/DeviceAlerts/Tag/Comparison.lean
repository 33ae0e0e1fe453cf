import DeviceAlerts.Datum

/-! How the value found in a message is compared with the operand of a tag. Equality compares the
values as they are; a threshold compares numbers and never holds when its operand is none. -/

namespace DeviceAlerts

open DeviceAlerts.Number

/-- The side of a threshold on which a number has to lie. -/
inductive Side
  | below
  | above
  deriving DecidableEq

def Side.flipped : Side → Side
  | below => above
  | above => below

/-- The threshold itself lies on neither side. -/
def Side.holds : Side → Binary64 → Binary64 → Bool
  | below, value, limit => value.lt limit
  | above, value, limit => limit.lt value

inductive CompareType
  | equal
  | threshold (side : Side)
  deriving DecidableEq

namespace CompareType

def symbol : CompareType → String
  | equal => "="
  | threshold .below => "<"
  | threshold .above => ">"

def ofSymbol? (s : String) : Option CompareType :=
  if s = "=" then some equal
  else if s = "<" then some (threshold .below)
  else if s = ">" then some (threshold .above)
  else none

def ofDatum? : Datum → Option CompareType
  | .text s => ofSymbol? s
  | _ => none

def isThreshold : CompareType → Bool
  | equal => false
  | threshold _ => true

/-- Equality has no opposite. -/
def flipped : CompareType → CompareType
  | equal => equal
  | threshold side => threshold side.flipped

theorem ofSymbol?_symbol (t : CompareType) : ofSymbol? t.symbol = some t := by
  cases t with
  | equal => rfl
  | threshold side => cases side <;> rfl

end CompareType

/-- The limit of a threshold is its operand as a number, when it is one. -/
inductive Comparison
  | equals (operand : Datum)
  | threshold (side : Side) (operand : Datum) (limit : Option Binary64)
  deriving DecidableEq

/-- What a comparison says of a value. -/
inductive Judgement
  | holds
  | fails
  | unreadable
  /-- The value is an integer that is too large to be compared. -/
  | tooLarge
  deriving DecidableEq

namespace Comparison

/-- Fails on an integer that is too large for a number. -/
def make? (type : CompareType) (operand : Datum) : Option Comparison :=
  match type with
  | .equal => some (equals operand)
  | .threshold side =>
    match operand.toNumber with
    | .ok limit => some (threshold side operand (some limit))
    | .error .notNumber => some (threshold side operand none)
    | .error .tooLarge => none

def type : Comparison → CompareType
  | equals _ => .equal
  | threshold side _ _ => .threshold side

def limit? : Comparison → Option Binary64
  | equals _ => none
  | threshold _ _ limit => limit

/-- A threshold without a number holds of nothing, whatever the value looks like. -/
def judge (c : Comparison) (value : Datum) : Judgement :=
  match c with
  | equals operand => if value == operand then .holds else .fails
  | threshold _ _ none => .fails
  | threshold side _ (some limit) =>
    match value.toNumber with
    | .error .notNumber => .unreadable
    | .error .tooLarge => .tooLarge
    | .ok number => if side.holds number limit then .holds else .fails

end Comparison

end DeviceAlerts
