import DeviceAlerts.Config.Uri
import DeviceAlerts.Number.Numeral
import DeviceAlerts.Table
import DeviceAlerts.Text.Case
import DeviceAlerts.Text.Quoted

/-! The settings of the service, read from its environment. A setting that cannot be read has its
default value, and a number outside its range the nearest value inside; only the choice of the
store can be refused. -/

namespace DeviceAlerts

open DeviceAlerts.Number DeviceAlerts.Text

inductive Backend
  | mongo
  | memory
  deriving DecidableEq

def Backend.text : Backend → String
  | mongo => "mongo"
  | memory => "memory"

structure Config where
  backend : Backend
  mongoUri : Option String
  databaseName : String
  storeTimeout : Binary64
  checkEnabled : Bool
  checkInterval : Int
  checkTimeout : Binary64
  logLevel : String
  deriving DecidableEq

namespace Config

inductive Fault
  | unknownBackend (given : String)
  | missingUri
  | strangeUri
  deriving DecidableEq

def Fault.message : Fault → String
  | unknownBackend given =>
    "Unknown STORE_BACKEND=" ++ quote given ++ "; expected one of mongo, memory"
  | missingUri => "STORE_BACKEND=mongo requires BACKEND_MONGO_URI."
  | strangeUri =>
    "Mongo URI appears invalid (must start with mongodb:// or mongodb+srv://). " ++
      "source=BACKEND_MONGO_URI"

/-! ### Single settings -/

/-- The variables that are set. -/
abbrev Environment := Table String String

/-- A variable, unless it is empty. -/
def filled? (e : Environment) (name : String) : Option String :=
  (e.get? name).filter fun s => s ≠ ""

def readInt (e : Environment) (name : String) (default : Int) : Int :=
  match e.get? name with
  | none => default
  | some s =>
    match readInteger s with
    | .ok i => i
    | .error _ => default

def readFloat (e : Environment) (name : String) (default : Binary64) : Binary64 :=
  ((e.get? name).bind readBinary64?).getD default

def readBool (e : Environment) (name : String) (default : Bool) : Bool :=
  match e.get? name with
  | none => default
  | some s =>
    let word := lowercase (trim s)
    if ["1", "true", "yes", "y", "on"].contains word then true
    else if ["0", "false", "no", "n", "off"].contains word then false
    else default

def clampInt (i low high : Int) : Int := max low (min high i)

/-- NaN becomes the upper end. -/
def clampFloat (x low high : Binary64) : Binary64 :=
  let y := if x.lt high then x else high
  if low.lt y then y else low

def tenth : Binary64 := .ofQuotient 1 10

def logLevels : List String := ["DEBUG", "INFO", "WARNING", "ERROR", "CRITICAL"]

def readLogLevel (e : Environment) : String :=
  let level := asciiUppercase (trim ((filled? e "LOG_LEVEL").getD "INFO"))
  if logLevels.contains level then level else "INFO"

/-- An empty name counts as no name. -/
def readDatabaseName (e : Environment) : String :=
  let name := trim ((filled? e "MONGO_DB_NAME").getD "devmon")
  if name = "" then "devmon" else name

/-! ### All settings -/

def mongoUri? (e : Environment) : Option String := filled? e "BACKEND_MONGO_URI"

/-- Without a choice, the presence of an address decides. -/
def backendName (e : Environment) : String :=
  let chosen := (filled? e "STORE_BACKEND").getD
    (if (mongoUri? e).isSome then Backend.mongo.text else Backend.memory.text)
  lowercase (trim chosen)

def readBackend (e : Environment) : Except Fault Backend :=
  let name := backendName e
  if name = Backend.memory.text then .ok .memory
  else if name = Backend.mongo.text then
    match mongoUri? e with
    | none => .error .missingUri
    | some uri => if (scheme? uri.toList).isSome then .ok .mongo else .error .strangeUri
  else .error (.unknownBackend name)

def load (e : Environment) : Except Fault Config :=
  (readBackend e).map fun backend =>
    { backend
      mongoUri := mongoUri? e
      databaseName := readDatabaseName e
      storeTimeout :=
        clampFloat (readFloat e "STORE_TIMEOUT_SEC" (.ofInt 5)) tenth (.ofInt 120)
      checkEnabled := readBool e "DEVICE_CHECK_ENABLED" true
      checkInterval := clampInt (readInt e "DEVICE_CHECK_INTERVAL_SEC" 30) 1 3600
      checkTimeout :=
        clampFloat (readFloat e "DEVICE_CHECK_TIMEOUT_SEC" (.ofInt 3)) tenth (.ofInt 60)
      logLevel := readLogLevel e }

/-- Where the address of the database comes from. -/
def uriSource (c : Config) : String :=
  if c.mongoUri.isSome then "BACKEND_MONGO_URI" else "unset"

/-! ### The store -/

/-- What records are kept in. -/
inductive StoreChoice
  | inMemory
  | inDatabase (uri name : String)
  deriving DecidableEq

/-- Nothing when a database is chosen whose address is missing. -/
def storeChoice? (c : Config) : Option StoreChoice :=
  match c.backend with
  | .memory => some .inMemory
  | .mongo => c.mongoUri.map fun uri => .inDatabase uri c.databaseName

end Config

end DeviceAlerts
