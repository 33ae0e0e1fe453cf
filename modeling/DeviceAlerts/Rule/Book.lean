import DeviceAlerts.Rule

/-! The rules in force, by device. -/

namespace DeviceAlerts

open DeviceAlerts.Time

/-- Every group holds the rules of one device in the order of their tags; `tagCount` counts the
tags that were read, whether they compiled or not. -/
structure Book where
  groups : Table Datum (List Rule)
  loadedAt : Option Moment
  tagCount : Nat

namespace Book

def empty : Book := ⟨[], none, 0⟩

def group (rules : List Rule) : Table Datum (List Rule) :=
  rules.foldl (fun t r => t.modify r.tag.deviceId fun old => old.getD [] ++ [r]) []

/-- Rules can be put together only by devices that can be looked up. -/
def ofRules (rules : List Rule) (tagCount : Nat) (now : Moment) : Except Datum.Misuse Book :=
  ((rules.map (·.tag.deviceId)).mapM Datum.asKey).map fun _ => ⟨group rules, some now, tagCount⟩

/-- The rules of a device, when it has a group. -/
def find? (b : Book) (deviceId : Datum) : Option (List Rule) := b.groups.get? deviceId

def rulesOf (b : Book) (deviceId : Datum) : List Rule := (b.find? deviceId).getD []

def ruleCount (b : Book) : Nat := b.groups.values.flatten.length

/-- Whether the tag with a number has a rule in force. -/
def isActive (b : Book) (tagId : Datum) : Bool :=
  b.groups.values.any fun rules => rules.any fun r => r.tag.id == tagId

end Book

end DeviceAlerts
