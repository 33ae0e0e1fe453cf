import DeviceAlerts.Store.Call

/-! Tags in memory. Rows stay in the order of their creation, which is the order in which the
rules are tried; a number is never given twice. -/

namespace DeviceAlerts.Store

open DeviceAlerts.Time

structure Tags where
  nextId : Int
  rows : List Tag
  deriving DecidableEq

namespace Tags

def empty : Tags := ⟨1, []⟩

def find? (s : Tags) (id : Int) : Option Tag := s.rows.find? fun t => t.id = .int id

def create (s : Tags) (now : Moment) (draft : TagDraft) : Tag × Tags :=
  let tag := draft.stored s.nextId now
  (tag, ⟨s.nextId + 1, s.rows ++ [tag]⟩)

def replace (s : Tags) (tag : Tag) : Tags :=
  { s with rows := s.rows.map fun t => if t.id = tag.id then tag else t }

/-- Unknown fields are found out first, whether the tag exists or not. -/
def update (s : Tags) (now : Moment) (id : Datum) (changes : List TagChange) :
    Except Failure (Option Tag) × Tags :=
  let strange := changes.filterMap TagChange.unknown?
  if !strange.isEmpty then (.error (.unknownFields (strange.mergeSort (· ≤ ·))), s)
  else
    match id.readInteger with
    | .error failure => (.error failure, s)
    | .ok id =>
      match s.find? id with
      | none => (.ok none, s)
      | some old =>
        let new := { TagChange.applyAll old changes with updatedAt := .moment now }
        (.ok (some new), s.replace new)

def delete (s : Tags) (id : Datum) : Except Failure Bool × Tags :=
  match id.readInteger with
  | .error failure => (.error failure, s)
  | .ok id =>
    (.ok (s.rows.any fun t => t.id = .int id),
      { s with rows := s.rows.filter fun t => t.id ≠ .int id })

def get (s : Tags) (id : Datum) : Except Failure (Option Tag) := id.readInteger.map s.find?

end Tags

end DeviceAlerts.Store
