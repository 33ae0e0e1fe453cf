import DeviceAlerts.Table
import DeviceAlerts.Text.Blank

/-! The origins from which browsers may call the service. -/

namespace DeviceAlerts.Config

open DeviceAlerts.Text

/-- The origins of a local front end. -/
def localOrigins : List String := ["http://localhost:3000", "http://127.0.0.1:3000"]

/-- The parts of a list with commas, without white space around them and without empty ones. -/
def commaList (s : String) : List String :=
  ((s.splitOn ",").map trim).filter fun part => part ≠ ""

/-- Every origin once, at its first place. -/
def origins (environment : Table String String) : List String :=
  let frontEnd := (environment.get? "FRONTEND_URL").toList.filter fun url => url ≠ ""
  let extra := (environment.get? "CORS_ALLOW_ORIGINS").elim [] commaList
  (localOrigins ++ frontEnd ++ extra).eraseDups

end DeviceAlerts.Config
