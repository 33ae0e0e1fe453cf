import DeviceAlerts.Tag

/-! Rules: tags whose conditions are compiled. -/

namespace DeviceAlerts

structure Rule where
  tag : Tag
  matcher : Matcher
  deriving DecidableEq

namespace Rule

def type (r : Rule) : CompareType := r.matcher.comparison.type

def isThreshold (r : Rule) : Bool := r.type.isThreshold

/-- What becomes of the recovery tag of a rule. -/
def recovery (r : Rule) : TagDraft := r.tag.recoveryOf r.type

def judge (r : Rule) (given : Datum) : Except Matcher.Breakdown Judgement := r.matcher.judge given

/-- Whether what a rule extracted lets it fire; a rule that breaks does not. -/
def accepts (r : Rule) (found : Except Matcher.Breakdown (Option String)) : Bool :=
  match found.map r.matcher.judgeFound with
  | .ok .holds => true
  | _ => false

def fires (r : Rule) (given : Datum) : Bool := r.accepts (r.matcher.extract given)

end Rule

/-- A tag that is left out, and why. -/
structure Refusal where
  tagId : Datum
  name : Datum
  fault : Condition.Fault
  deriving DecidableEq

def Refusal.message (r : Refusal) : String :=
  "tag id=" ++ r.tagId.plain ++ " name=" ++ r.name.quoted ++ ": " ++ r.fault.message

def Tag.compile (t : Tag) : Except Condition.Obstacle Rule :=
  t.condition.compile.map fun matcher => ⟨t, matcher⟩

end DeviceAlerts
