import DeviceAlerts.Report.Row
import DeviceAlerts.Sorting

/-! The month report: a row for every device and type of message, ranked by volume. -/

namespace DeviceAlerts.Report

/-- What a row is about. -/
structure Subject where
  deviceId : Datum
  type : Datum
  deriving DecidableEq

instance : BEq Subject := ⟨fun a b => a.deviceId == b.deviceId && a.type == b.type⟩

def Subject.ofVolume (v : DailyVolume) : Except Datum.Misuse Subject := do
  return ⟨← v.deviceId.asKey, ← v.type.asKey⟩

def group (volumes : List DailyVolume) : Except Datum.Misuse (Table Subject (List DailyVolume)) :=
  volumes.foldlM (fun t v => do
    let subject ← Subject.ofVolume v
    return t.modify subject fun old => old.getD [] ++ [v]) []

/-- A summary of every subject. -/
def summaries (volumes : List DailyVolume) (describe : Datum → Device) :
    Except Failure (List Summary) := do
  let table ← (group volumes).mapError .misuse
  table.mapM fun (subject, days) =>
    summarize subject.deviceId (describe subject.deviceId).name subject.type days

/-- Whether there are enough messages for a row. -/
def Summary.isEnough (minimum : Datum) (s : Summary) : Except Datum.Misuse Bool :=
  (Datum.int s.figures.total).stands .notBelow minimum

/-- One more than the number of different greater totals. -/
def rank (all : List Summary) (s : Summary) : Nat :=
  (((all.map (·.figures.total)).filter fun t => s.figures.total < t).eraseDups).length + 1

/-- By device, then by volume with the busiest first, then by type. -/
def Summary.below (a b : Summary) : Except Datum.Misuse Bool :=
  Datum.keyBelow [a.deviceId, .int (-a.figures.total), a.type]
    [b.deviceId, .int (-b.figures.total), b.type]

/-- The rows in order; fails at the first one that is not sound. -/
def rows (volumes : List DailyVolume) (describe : Datum → Device) (minimum : Datum) :
    Except Failure (List Row) := do
  let all ← summaries volumes describe
  let enough ← (Sorting.keep (Summary.isEnough minimum) all).mapError .misuse
  let sorted ← (Sorting.ascending Summary.below enough).mapError .misuse
  sorted.mapM fun s => (s.check (rank enough s)).toExcept

end DeviceAlerts.Report
