import DeviceAlerts.Notice

/-! The compilation of all stored tags. A tag that means nothing is left out with a notice; a tag
beyond the limits stops the compilation. -/

namespace DeviceAlerts

/-- What compiling a condition gives rise to, whether it succeeds or not. -/
def Condition.notices (c : Condition) : List Notice :=
  match c.comparison with
  | .ok comparison => comparison.notices
  | .error _ => []

/-- Rules with the notices that their making gave rise to. -/
structure Compilation where
  notices : List Notice
  rules : Except Condition.Limit (List Rule)

namespace Compilation

def empty : Compilation := ⟨[], .ok []⟩

/-- Puts one tag in front of those already compiled. -/
def push (t : Tag) (rest : Compilation) : Compilation :=
  match t.compile with
  | .ok rule => ⟨t.condition.notices ++ rest.notices, rest.rules.map (rule :: ·)⟩
  | .error (.fault fault) =>
    ⟨t.condition.notices ++ .tagSkipped ⟨t.id, t.name, fault⟩ :: rest.notices, rest.rules⟩
  | .error (.limit limit) => ⟨t.condition.notices, .error limit⟩

def ofTags (tags : List Tag) : Compilation := tags.foldr push empty

end Compilation

end DeviceAlerts
