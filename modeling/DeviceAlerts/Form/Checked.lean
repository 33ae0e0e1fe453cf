import DeviceAlerts.Store.Failure

/-! Reading a form field by field. All flaws are reported, not only the first. -/

namespace DeviceAlerts.Form

/-- A value, or all that is wrong with what was given for it. -/
inductive Checked (α : Type)
  | sound (value : α)
  | flawed (flaws : List Flaw)

namespace Checked

variable {α β : Type}

def map (f : α → β) : Checked α → Checked β
  | sound a => sound (f a)
  | flawed flaws => flawed flaws

/-- Both parts are looked at, whatever is found in the first. -/
def both (f : Checked (α → β)) (x : Checked α) : Checked β :=
  match f, x with
  | sound f, sound a => sound (f a)
  | sound _, flawed flaws => flawed flaws
  | flawed flaws, sound _ => flawed flaws
  | flawed flaws, flawed more => flawed (flaws ++ more)

instance : Applicative Checked where
  pure := sound
  map := map
  seq f x := f.both (x ())

/-- The same inside a part of something larger. -/
def within (place : Datum) : Checked α → Checked α
  | sound a => sound a
  | flawed flaws => flawed (flaws.map fun flaw => { flaw with place := place :: flaw.place })

/-- Refuses what was given. -/
def refuse (given : Datum) (type message : String) : Checked α :=
  flawed [⟨type, [], message, given⟩]

def toExcept : Checked α → Except Failure α
  | sound a => .ok a
  | flawed flaws => .error (.malformed flaws)

end Checked

/-! ### Fields -/

/-- A field goes by its outer name, or else by its inner one. -/
structure Field where
  inner : String
  outer : String
  deriving DecidableEq

namespace Field

variable {α : Type}

/-- A field with one name. -/
def named (name : String) : Field := ⟨name, name⟩

/-- What is given for a field, with the name under which it stands. -/
def find? (f : Field) (form : Datum) : Option (String × Datum) :=
  match form.get? f.outer with
  | some value => some (f.outer, value)
  | none => (form.get? f.inner).map fun value => (f.inner, value)

def isGiven (f : Field) (form : Datum) : Bool := (f.find? form).isSome

def required (f : Field) (read : Datum → Checked α) (form : Datum) : Checked α :=
  match f.find? form with
  | none => .flawed [⟨"missing", [.text f.outer], "Field required", form⟩]
  | some (name, value) => (read value).within (.text name)

def withDefault (f : Field) (read : Datum → Checked α) (default : α) (form : Datum) :
    Checked α :=
  match f.find? form with
  | none => .sound default
  | some (name, value) => (read value).within (.text name)

/-- Null stands for nothing given. -/
def optional (f : Field) (read : Datum → Checked α) (form : Datum) : Checked (Option α) :=
  match f.find? form with
  | none | some (_, .null) => .sound none
  | some (name, value) => ((read value).map some).within (.text name)

end Field

end DeviceAlerts.Form
