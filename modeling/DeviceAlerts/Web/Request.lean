import DeviceAlerts.Form.Checked
import DeviceAlerts.Json.Encoding
import DeviceAlerts.Json.Reader
import DeviceAlerts.Web.Path

/-! Requests to the service and its responses. -/

namespace DeviceAlerts.Web

/-- What the service shows of its settings. -/
structure Site where
  backend : String
  mongoUri : Option String

inductive Body
  | absent
  | value (d : Datum)
  | raw (text : String)

/-- The entries of `query` follow those of the target. -/
structure Request where
  method : String
  target : Target
  query : List (String × String)
  body : Body

/-- The request to an address. -/
def Request.read (method address : String) (query : List (String × String)) (body : Body) :
    Except UrlFault Request :=
  (Target.read address).map fun target => ⟨method, target, query, body⟩

inductive Content
  | nothing
  | json (d : Datum)
  | text (s : String)

structure Response where
  status : Nat
  content : Content

namespace Response

def json (status : Nat) (d : Datum) : Response := ⟨status, .json d⟩

def detail (status : Nat) (message : String) : Response :=
  json status (.record [("detail", .text message)])

def flawRecord (f : Flaw) : Datum :=
  .record [("type", .text f.type), ("loc", .list f.place), ("msg", .text f.message)]

def notFound : Response := detail 404 "Not Found"

def methodNotAllowed : Response := detail 405 "Method Not Allowed"

def noContent : Response := ⟨204, .nothing⟩

def unavailable : Response :=
  json 503 (.record [("detail", .text "store unavailable"), ("code", .text "store_unavailable")])

def internalError : Response := ⟨500, .text "Internal Server Error"⟩

/-- Values that cannot be sent: numbers that are not finite and text that is garbled. -/
def isUnsendable : Datum → Bool
  | .float x => !x.isFinite
  | .garbled => true
  | _ => false

/-- The request is not of the form that the route asks for; flaws are sent with what was given. -/
def unprocessable (flaws : List Flaw) : Response :=
  if flaws.any fun f => f.given.hasPart isUnsendable then internalError
  else json 422 (.record [("detail", .list (flaws.map flawRecord))])

def unreadable : Response := detail 400 "There was an error parsing the body"

end Response

/-! ### Parts of a request -/

open DeviceAlerts.Form

variable {α : Type}

/-- A part of the path. -/
def readSegment (name segment : String) (read : Datum → Checked α) : Checked α :=
  ((read (.text segment)).within (.text name)).within (.text "path")

/-- The method by its usual name. -/
def Request.verb (r : Request) : String := r.method.toUpper

/-- The query as a record; of several values of one name the last counts. -/
def Request.queryRecord (r : Request) : Datum :=
  .record ((queryEntries r.target.query ++ r.query).foldl
    (fun t entry => Table.set entry.1 (.text entry.2) t) [])

/-- Reads the query by fields. -/
def Request.readQuery (r : Request) (read : Datum → Checked α) : Checked α :=
  (read r.queryRecord).within (.text "query")

/-- Bodies with deeper values are not read. -/
def depthLimit : Nat := 940

/-- The value in the body, or nothing; fails with a response when the body is no JSON. -/
def Body.value? : Body → Except Response (Option Datum)
  | absent => .ok none
  | value d => .ok (some d)
  | raw text =>
    if text = "" then .ok none
    else
      match (Json.characters? text).map (Json.read depthLimit) with
      | some (.ok d) => .ok (some d)
      | some (.error (.invalid offset)) =>
        .error (.unprocessable
          [⟨"json_invalid", [.text "body", .int offset], "JSON decode error", .record []⟩])
      | _ => .error .unreadable

/-- Only a record can be read as a form. -/
def readForm (read : Datum → Checked α) (given : Option Datum) : Checked α :=
  Checked.within (.text "body") <|
    match given with
    | none => .refuse .null "missing" "Field required"
    | some (.record fields) => read (.record fields)
    | some other =>
      .refuse other "model_attributes_type"
        "Input should be a valid dictionary or object to extract fields from"

end DeviceAlerts.Web
