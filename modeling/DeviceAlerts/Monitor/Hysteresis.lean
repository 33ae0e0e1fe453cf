import DeviceAlerts.Monitor.Refresh

/-! Hysteresis. An alerting threshold tag that wins is given a recovery tag with the opposite
comparison, unless it has one; a recovery tag that wins is deleted, which arms the alerting tag
again. What is to be done is decided from the rules in force, and a store that fails is reported
but stops nothing. -/

namespace DeviceAlerts.Monitor

/-- What a winning rule calls for. -/
inductive Plan
  /-- The tag compares for equality. -/
  | ignore
  /-- There is nothing left to do. -/
  | settled (transition : Transition)
  | delete (tagId : Datum)
  | create (draft : TagDraft)
  deriving DecidableEq

def plan (winner : Rule) (book : Book) : Plan :=
  let rules := book.rulesOf winner.tag.deviceId
  if !winner.isThreshold then .ignore
  else if winner.tag.isRecovery then
    if rules.any fun r => r.tag.id == winner.tag.id then .delete winner.tag.id
    else .settled .alreadyCleared
  else if rules.any fun r => r.tag.agreesWith winner.recovery then .settled .alreadyArmed
  else .create winner.recovery

/-- A recovery tag that is gone from the store already is worth a notice. -/
def clear (winner : Rule) : Activity Transition := do
  let tag := winner.tag
  match ← askStore (.deleteTag tag.id) with
  | .error _ =>
    tellOne (.recoveryNotDeleted tag.id tag.deviceId)
    return .failed
  | .ok (deleted : Bool) =>
    if !deleted then tellOne (.recoveryMissing tag.id tag.deviceId)
    reloadRules .transitionNotLoaded
    return if deleted then .deleted else .alreadyCleared

def trip (winner : Rule) (draft : TagDraft) : Activity Transition := do
  match ← askStore (.createTag draft) with
  | .error _ =>
    tellOne (.recoveryNotCreated winner.tag.id winner.tag.deviceId)
    return .failed
  | .ok _ =>
    reloadRules .transitionNotLoaded
    return .created

/-- Does what a winning rule calls for. -/
def handle (winner : Rule) : Activity (Option Transition) := do
  match plan winner (← readBook) with
  | .ignore => return none
  | .settled transition => return some transition
  | .delete _ => return some (← clear winner)
  | .create draft => return some (← trip winner draft)

end DeviceAlerts.Monitor
