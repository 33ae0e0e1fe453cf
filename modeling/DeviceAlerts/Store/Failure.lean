import DeviceAlerts.Datum.Span
import DeviceAlerts.Tag
import DeviceAlerts.Time.Iso

/-! Why a request to a store, or an activity built on one, comes to nothing. -/

namespace DeviceAlerts

open DeviceAlerts.Text

/-- A field of a record that does not have the form it should have, with what was given for it. -/
structure Flaw where
  type : String
  place : List Datum
  message : String
  given : Datum
  deriving DecidableEq

inductive Failure
  /-- The store could not be reached. -/
  | unavailable (reason : String)
  /-- The store refused for a reason of its own. -/
  | refused (reason : String)
  /-- The address of a device is the address of another; an update need not name it. -/
  | addressTaken (address : Datum)
  | unknownFields (names : List String)
  | unknownField (name : String)
  | notInteger (fault : Datum.IntegerFault)
  | dateOutOfRange
  | limit (limit : Condition.Limit)
  /-- Something broke that nobody foresaw. -/
  | crash (reason : String)
  | duplicateKey (reason : String)
  | missingKey (key : String)
  | misuse (fault : Datum.Misuse)
  /-- A text is no day or no point in time. -/
  | noMoment (fault : Time.MomentFault)
  | notDayText
  /-- An extreme of no values at all. -/
  | noExtreme (greatest : Bool)
  | malformed (flaws : List Flaw)
  | span (fault : SpanFault)
  | arithmetic (fault : Number.OverflowFault)
  | noIndex
  /-- A value that should be a record has no fields. -/
  | noFields (kind : String)
  /-- A text that should be an address is none. -/
  | noAddress (reason : String)
  deriving DecidableEq

namespace Failure

def message : Failure → String
  | unavailable reason | refused reason | crash reason | duplicateKey reason
  | noAddress reason => reason
  | addressTaken address => "device with address " ++ address.quoted ++ " already exists"
  | unknownFields names => "unknown field(s): " ++ String.intercalate ", " names
  | unknownField name => "unknown field " ++ quote name
  | notInteger fault => fault.message
  | dateOutOfRange => "date value out of range"
  | limit beyond => beyond.message
  | missingKey key => quote key
  | misuse fault => fault.message
  | noMoment fault => fault.message
  | notDayText => "fromisoformat: argument must be str"
  | noExtreme greatest => (if greatest then "max" else "min") ++ "() arg is an empty sequence"
  | malformed _ => ""
  | span fault => fault.message
  | arithmetic fault => fault.message
  | noIndex => "tuple index out of range"
  | noFields kind => "'" ++ kind ++ "' object has no attribute 'get'"

end Failure

/-! ### Reading -/

namespace Datum

/-- An integer, however it is given. -/
def readInteger (d : Datum) : Except Failure Int := d.toInteger.mapError .notInteger

/-- The integers of a value that can be gone through. -/
def readIntegers (d : Datum) : Except Failure (List Int) := do
  (toIntegers (← d.items.mapError .misuse)).mapError .notInteger

end Datum

end DeviceAlerts
