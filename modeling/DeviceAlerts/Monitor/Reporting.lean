import DeviceAlerts.Monitor.Call
import DeviceAlerts.Report

/-! Reports on the stored messages. -/

namespace DeviceAlerts.Monitor

open DeviceAlerts.Time

def defaultReportDays : Int := 30

/-- The report on the days before a moment. -/
structure MonthReport where
  start : Moment
  rows : List Report.Row

/-- The beginning of a period of whole days that ends at a moment. -/
def periodStart (stop : Moment) (days : Datum) : Except Failure Moment := do
  let span ← (days.toSpan .days).mapError .span
  (stop.add (-span)).mapError fun _ => .dateOutOfRange

def monthReport (days minimum : Datum) (stop : Option Moment) :
    Activity (Except Failure MonthReport) := do
  let now ← ask .now
  match periodStart (stop.getD now) days with
  | .error failure => return .error failure
  | .ok start =>
    match ← askStore (.dailyVolumes start) with
    | .error failure => return .error failure
    | .ok volumes =>
      let directory ← readDirectory
      return (Report.rows volumes directory.describe minimum).map fun rows => ⟨start, rows⟩

end DeviceAlerts.Monitor
