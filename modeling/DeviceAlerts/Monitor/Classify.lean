import DeviceAlerts.Monitor.Hysteresis

/-! The verdict on a message: the first rule of its device that fires wins. -/

namespace DeviceAlerts.Monitor

/-- The first rule that fires on a text, with the notices of the rules that were tried. -/
def scan (text : Datum) : List Rule → List Notice × Option Rule
  | [] => ([], none)
  | r :: rest =>
    let found := r.matcher.extract text
    if r.accepts found then (r.notices found, some r)
    else
      let (notices, winner) := scan text rest
      (r.notices found ++ notices, winner)

/-- What the rules look into: nothing at all counts as no text. -/
def body (m : Message) : Datum := if m.text.isTruthy then m.text else .text ""

/-- A tag without a severity leaves that of the message. -/
def graded (m : Message) (winner : Rule) : Message :=
  if winner.tag.severity.isTruthy then { m with severity := winner.tag.severity } else m

def verdict (m : Message) (winner : Rule) (transition : Option Transition) : Outcome :=
  ⟨graded m winner, true, winner.tag.subject, m.text, winner.tag.id, transition⟩

/-- Classifies a message of a device that can be looked up; `react` is what is done about a
threshold rule that wins. -/
def classifyWith (react : Rule → Activity (Option Transition)) (m : Message) :
    Activity (Except Failure Outcome) := do
  let book ← readBook
  match m.deviceId.asKey with
  | .error fault => return .error (.misuse fault)
  | .ok deviceId =>
    let (notices, winner) := scan (body m) (book.rulesOf deviceId)
    tell notices
    match winner with
    | none => return .ok (.quiet m)
    | some winner =>
      let transition ← if winner.isThreshold then react winner else pure none
      return .ok (verdict m winner transition)

def classify (m : Message) : Activity (Except Failure Outcome) := classifyWith handle m

end DeviceAlerts.Monitor
