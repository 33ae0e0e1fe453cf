/-! Tables whose rows stay in the order in which their keys were first set. -/

namespace DeviceAlerts

abbrev Table (κ α : Type) := List (κ × α)

namespace Table

variable {κ α : Type} [BEq κ]

def get? (t : Table κ α) (key : κ) : Option α := (t.find? fun row => row.1 == key).map (·.2)

/-- Sets a key, at its old place when it is there and at the end otherwise. Of keys that count as
equal the first is kept. -/
def set (key : κ) (value : α) : Table κ α → Table κ α
  | [] => [(key, value)]
  | row :: rest => if row.1 == key then (row.1, value) :: rest else row :: set key value rest

/-- Replaces what stands under a key by a function of it, which is given nothing when the key is
not there. -/
def modify (key : κ) (f : Option α → α) (t : Table κ α) : Table κ α := t.set key (f (t.get? key))

def erase (key : κ) (t : Table κ α) : Table κ α := t.filter fun row => !(row.1 == key)

def keys (t : Table κ α) : List κ := t.map (·.1)

def values (t : Table κ α) : List α := t.map (·.2)

end Table

end DeviceAlerts
