import DeviceAlerts.Store.Failure
import DeviceAlerts.Time.Iso

/-! Documents of the database: tables of fields whose values have any type. A field is read the
way its record needs it, and a field that may be missing has a value of its own for that case. -/

namespace DeviceAlerts

open DeviceAlerts.Time

abbrev Document := Table String Datum

namespace Datum

mutual
/-- The value that its extended form stands for, in which a moment is a record with the single
field `$date`. -/
def ofExtended : Datum → Datum
  | record [(key, text s)] =>
    match key, readMoment s with
    | "$date", .ok m => moment m
    | key, _ => record [(key, text s)]
  | record fields => record (ofExtendedFields fields)
  | list items => list (ofExtendedItems items)
  | d => d

def ofExtendedItems : List Datum → List Datum
  | [] => []
  | d :: rest => ofExtended d :: ofExtendedItems rest

def ofExtendedFields : List (String × Datum) → List (String × Datum)
  | [] => []
  | (key, d) :: rest => (key, ofExtended d) :: ofExtendedFields rest
end

end Datum

namespace Document

/-- A document is a record; in any other value nothing is found under a name. -/
def ofDatum : Datum → Except Failure Document
  | .record fields => .ok fields
  | other => .error (.misuse (.noRecord other.kind))

def need (d : Document) (key : String) : Except Failure Datum :=
  match d.get? key with
  | some value => .ok value
  | none => .error (.missingKey key)

def needInteger (d : Document) (key : String) : Except Failure Int := do
  (← d.need key).readInteger

/-- A missing integer is zero. -/
def integer (d : Document) (key : String) : Except Failure Int :=
  ((d.get? key).getD (.int 0)).readInteger

/-- A missing field is an empty text; nobody looks into it here. -/
def given (d : Document) (key : String) : Datum := (d.get? key).getD (.text "")

/-- A field that is missing is null. -/
def optional (d : Document) (key : String) : Datum := (d.get? key).getD .null

/-- A list of integers; nothing at all counts as no items. -/
def integers (d : Document) (key : String) : Except Failure (List Int) :=
  let value := d.optional key
  if value.isTruthy then value.readIntegers else .ok []

/-- Sets fields one after the other. -/
def setAll (fields : List (String × Datum)) (d : Document) : Document :=
  fields.foldl (fun d field => Table.set field.1 field.2 d) d

end Document

end DeviceAlerts
