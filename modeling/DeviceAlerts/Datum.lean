import DeviceAlerts.Number.Numeral
import DeviceAlerts.Number.Shortest
import DeviceAlerts.Table
import DeviceAlerts.Text.Quoted
import DeviceAlerts.Time.Moment

/-! Values whose type nobody checked: what a document holds under a key, what a request body says,
and the fields of records, which are looked into as late as they are needed. -/

namespace DeviceAlerts

open DeviceAlerts.Number DeviceAlerts.Text DeviceAlerts.Time

inductive Datum
  | null
  | bool (value : Bool)
  | int (value : Int)
  | float (value : Binary64)
  | text (value : String)
  /-- A text that holds half a character and can neither be shown nor sent on. -/
  | garbled
  | moment (value : Moment)
  | list (items : List Datum)
  | record (fields : List (String × Datum))
  deriving Inhabited

namespace Datum

/-! ### Equality -/

mutual
def beq : Datum → Datum → Bool
  | null, null => true
  | bool a, bool b => a == b
  | int a, int b => a == b
  | float a, float b => a == b
  | text a, text b => a == b
  | garbled, garbled => true
  | moment a, moment b => a == b
  | list a, list b => beqItems a b
  | record a, record b => beqFields a b
  | _, _ => false

def beqItems : List Datum → List Datum → Bool
  | [], [] => true
  | a :: as, b :: bs => beq a b && beqItems as bs
  | _, _ => false

def beqFields : List (String × Datum) → List (String × Datum) → Bool
  | [], [] => true
  | (k, a) :: as, (l, b) :: bs => k == l && beq a b && beqFields as bs
  | _, _ => false
end

mutual
theorem eq_of_beq : ∀ (a b : Datum), beq a b = true → a = b
  | null, b, h => by cases b <;> simp_all [beq]
  | bool _, b, h => by cases b <;> simp_all [beq]
  | int _, b, h => by cases b <;> simp_all [beq]
  | float _, b, h => by cases b <;> simp_all [beq]
  | text _, b, h => by cases b <;> simp_all [beq]
  | garbled, b, h => by cases b <;> simp_all [beq]
  | moment _, b, h => by cases b <;> simp_all [beq]
  | list as, b, h => by
    cases b with
    | list bs => rw [eq_of_beqItems as bs (by simpa [beq] using h)]
    | _ => simp [beq] at h
  | record as, b, h => by
    cases b with
    | record bs => rw [eq_of_beqFields as bs (by simpa [beq] using h)]
    | _ => simp [beq] at h

theorem eq_of_beqItems : ∀ (as bs : List Datum), beqItems as bs = true → as = bs
  | [], bs, h => by cases bs <;> simp_all [beqItems]
  | a :: as, bs, h => by
    cases bs with
    | nil => simp [beqItems] at h
    | cons b bs =>
      simp only [beqItems, Bool.and_eq_true] at h
      rw [eq_of_beq a b h.1, eq_of_beqItems as bs h.2]

theorem eq_of_beqFields :
    ∀ (as bs : List (String × Datum)), beqFields as bs = true → as = bs
  | [], bs, h => by cases bs <;> simp_all [beqFields]
  | (k, a) :: as, bs, h => by
    cases bs with
    | nil => simp [beqFields] at h
    | cons b bs =>
      obtain ⟨l, b⟩ := b
      simp only [beqFields, Bool.and_eq_true, beq_iff_eq] at h
      rw [h.1.1, eq_of_beq a b h.1.2, eq_of_beqFields as bs h.2]
end

mutual
theorem beq_refl : ∀ a : Datum, beq a a = true
  | null => rfl
  | bool _ => by simp [beq]
  | int _ => by simp [beq]
  | float _ => by simp [beq]
  | text _ => by simp [beq]
  | garbled => rfl
  | moment _ => by simp [beq]
  | list as => by simpa [beq] using beqItems_refl as
  | record as => by simpa [beq] using beqFields_refl as

theorem beqItems_refl : ∀ as : List Datum, beqItems as as = true
  | [] => rfl
  | a :: as => by simp [beqItems, beq_refl a, beqItems_refl as]

theorem beqFields_refl : ∀ as : List (String × Datum), beqFields as as = true
  | [] => rfl
  | (k, a) :: as => by simp [beqFields, beq_refl a, beqFields_refl as]
end

instance : DecidableEq Datum := fun a b =>
  if h : beq a b = true then isTrue (eq_of_beq a b h)
  else isFalse fun e => h (e ▸ beq_refl a)

/-! ### Likeness -/

mutual
/-- The form in which values that count as the same are equal: whole numbers and truth values are
integers, moments stand in UTC, and the fields of a record in the order of their names. -/
def canonical : Datum → Datum
  | bool b => int b.toNat
  | float x => x.toInt?.elim (float x) int
  | moment m => moment m.normal
  | list xs => list (canonicalItems xs)
  | record fs => record ((canonicalFields fs).mergeSort fun a b => a.1 ≤ b.1)
  | d => d

def canonicalItems : List Datum → List Datum
  | [] => []
  | x :: rest => canonical x :: canonicalItems rest

def canonicalFields : List (String × Datum) → List (String × Datum)
  | [] => []
  | (k, x) :: rest => (k, canonical x) :: canonicalFields rest
end

mutual
/-- Whether a part of a value satisfies a test of single values. -/
def hasPart (test : Datum → Bool) : Datum → Bool
  | list xs => hasPartItems test xs
  | record fs => hasPartFields test fs
  | d => test d

def hasPartItems (test : Datum → Bool) : List Datum → Bool
  | [] => false
  | x :: rest => hasPart test x || hasPartItems test rest

def hasPartFields (test : Datum → Bool) : List (String × Datum) → Bool
  | [] => false
  | (_, x) :: rest => hasPart test x || hasPartFields test rest
end

def isNaN : Datum → Bool
  | float x => x.isNaN
  | _ => false

/-- Whether two values count as the same. NaN is not even the same as itself. -/
def alike (a b : Datum) : Bool := decide (a.canonical = b.canonical) && !a.hasPart isNaN

instance : BEq Datum := ⟨alike⟩

/-! ### Parts -/

def get? (d : Datum) (key : String) : Option Datum :=
  match d with
  | record fields => Table.get? fields key
  | _ => none

/-- The empty values, zero and false do not count. -/
def isTruthy : Datum → Bool
  | null => false
  | bool b => b
  | int i => i != 0
  | float x => x.key != some 0
  | text s => s != ""
  | garbled | moment _ => true
  | list xs => !xs.isEmpty
  | record fs => !fs.isEmpty

/-- The name of the kind of a value, as messages give it. -/
def kind : Datum → String
  | null => "NoneType"
  | bool _ => "bool"
  | int _ => "int"
  | float _ => "float"
  | text _ | garbled => "str"
  | moment _ => "datetime.datetime"
  | list _ => "list"
  | record _ => "dict"

/-- What cannot be done with values of certain kinds. -/
inductive Misuse
  /-- Only values that never change can be looked up in a table. -/
  | unhashable (kind : String)
  | incomparable (operator left right : String)
  /-- A moment with a known place of its clock and one without cannot be compared. -/
  | mixedClocks
  | subtractedClocks
  | noList (kind : String)
  | noRecord (kind : String)
  | noText (kind : String)
  /-- Only numbers can be added up. -/
  | noSummand (kind : String)
  /-- Only numbers have a sign. -/
  | noSign (kind : String)
  deriving DecidableEq

def Misuse.message : Misuse → String
  | unhashable kind => "unhashable type: '" ++ kind ++ "'"
  | incomparable operator left right =>
    "'" ++ operator ++ "' not supported between instances of '" ++ left ++ "' and '" ++ right ++ "'"
  | mixedClocks => "can't compare offset-naive and offset-aware datetimes"
  | subtractedClocks => "can't subtract offset-naive and offset-aware datetimes"
  | noList kind => "'" ++ kind ++ "' object is not iterable"
  | noRecord kind =>
    if kind = "str" then "string indices must be integers, not 'str'"
    else if kind = "list" then "list indices must be integers or slices, not str"
    else "'" ++ kind ++ "' object is not subscriptable"
  | noText kind => "expected string or bytes-like object, got '" ++ kind ++ "'"
  | noSummand kind => "unsupported operand type(s) for +: 'int' and '" ++ kind ++ "'"
  | noSign kind => "bad operand type for unary -: '" ++ kind ++ "'"

/-- A value under which something can be looked up. -/
def asKey : Datum → Except Misuse Datum
  | list xs => .error (.unhashable (list xs).kind)
  | record fs => .error (.unhashable (record fs).kind)
  | d => .ok d

/-- The items of a value that can be gone through: those of a list, the characters of a text and
the keys of a record. -/
def items : Datum → Except Misuse (List Datum)
  | list items => .ok items
  | text s => .ok (s.toList.map fun c => text (String.singleton c))
  | record fields => .ok (fields.map fun field => text field.1)
  | d => .error (.noList d.kind)

/-! ### Text -/

mutual
/-- The value as messages show it, text in quotes. -/
def quoted : Datum → String
  | null => "None"
  | bool b => if b then "True" else "False"
  | int i => toString i
  | float x => x.text
  | text s => quote s
  | garbled => quote ""
  | moment m => m.listedText
  | list xs => "[" ++ quotedItems xs ++ "]"
  | record fs => "\x7b" ++ quotedFields fs ++ "\x7d"

def quotedItems : List Datum → String
  | [] => ""
  | [x] => quoted x
  | x :: y :: rest => quoted x ++ ", " ++ quotedItems (y :: rest)

def quotedFields : List (String × Datum) → String
  | [] => ""
  | [(k, x)] => quote k ++ ": " ++ quoted x
  | (k, x) :: y :: rest => quote k ++ ": " ++ quoted x ++ ", " ++ quotedFields (y :: rest)
end

/-- The value as plain text. -/
def plain : Datum → String
  | text s => s
  | moment m => m.spacedText
  | d => d.quoted

/-! ### Numbers -/

/-- Why a value cannot be read as an integer. -/
inductive IntegerFault
  | numeral (given : String) (fault : Number.IntegerFault)
  | kind (given : String)
  | nan
  | infinite
  deriving DecidableEq

/-- Integers and truth values as they are, numbers without their fraction, numerals by value. -/
def toInteger : Datum → Except IntegerFault Int
  | bool b => .ok (if b then 1 else 0)
  | int i => .ok i
  | float x =>
    match x.truncate? with
    | some i => .ok i
    | none => .error (if x.isNaN then .nan else .infinite)
  | text s =>
    match readInteger s with
    | .ok i => .ok i
    | .error fault => .error (.numeral s fault)
  | d => .error (.kind d.kind)

def IntegerFault.message : IntegerFault → String
  | .numeral given .malformed => "invalid literal for int() with base 10: " ++ quote given
  | .numeral _ (.tooManyDigits count) =>
    "Exceeds the limit (" ++ toString integerDigitLimit ++
      " digits) for integer string conversion: value has " ++ toString count ++
      " digits; use sys.set_int_max_str_digits() to increase the limit"
  | .kind given =>
    "int() argument must be a string, a bytes-like object or a real number, not '" ++ given ++ "'"
  | .nan => "cannot convert float NaN to integer"
  | .infinite => "cannot convert float infinity to integer"

inductive NumberFault
  | notNumber
  | tooLarge
  deriving DecidableEq

/-- The number that a value stands for in a comparison; an integer may be too large for one. -/
def toNumber : Datum → Except NumberFault Binary64
  | bool b => .ok (.ofInt (if b then 1 else 0))
  | int i => if (Binary64.ofInt i).isFinite then .ok (.ofInt i) else .error .tooLarge
  | float x => .ok x
  | text s => (readBinary64? s).elim (.error .notNumber) .ok
  | _ => .error .notNumber

/-- A whole number, which may be given as a truth value or with a fraction of zero. -/
def toWhole? : Datum → Option Int
  | bool b => some b.toNat
  | int i => some i
  | float x => x.toInt?
  | _ => none

def toIntegers (items : List Datum) : Except IntegerFault (List Int) := items.mapM toInteger

end Datum

end DeviceAlerts
