import DeviceAlerts.Config.Uri
import DeviceAlerts.Form
import DeviceAlerts.Form.Instant
import DeviceAlerts.Monitor.Sweep
import DeviceAlerts.Web.Path
import DeviceAlerts.Web.Request
import DeviceAlerts.Web.View

/-! What the service does on a request. A change is followed by a refresh of the cache that it
concerns; a refresh that fails leaves the answer as it is. -/

namespace DeviceAlerts.Web

open DeviceAlerts.Form DeviceAlerts.Monitor DeviceAlerts.Text DeviceAlerts.Time

abbrev Handler := Activity (Except Failure Response)

/-- Goes on with a sound request; all flaws of any other are answered. -/
def onSound {α : Type} (checked : Checked α) (next : α → Handler) : Handler :=
  match checked with
  | .sound a => next a
  | .flawed flaws => return .ok (.unprocessable flaws)

/-- Goes on with the value in the body. -/
def onBody (r : Request) (next : Option Datum → Handler) : Handler :=
  match r.body.value? with
  | .ok given => next given
  | .error response => return .ok response

/-- Goes on with the answer of a store call. -/
def onStore (c : Store.Call) (next : c.Answer → Handler) : Handler := do
  match ← askStore c with
  | .ok answer => next answer
  | .error failure => return .error failure

/-- Goes on unless one of the values cannot be looked up. -/
def onKeys (keys : List Datum) (next : Handler) : Handler :=
  match keys.mapM Datum.asKey with
  | .ok _ => next
  | .error fault => return .error (.misuse fault)

/-- The response that shows a record; one that cannot be shown is a failure. -/
def respondWith (status : Nat) (view : Checked Datum) : Except Failure Response :=
  view.toExcept.map (.json status)

def respondWithAll (views : Checked (List Datum)) : Except Failure Response :=
  respondWith 200 (views.map listing)

/-! ### Health -/

def showHealth : Handler := do
  let now ← ask .now
  return .ok (.json 200 (.record [("status", .text "ok"), ("message", .text "Healthy"),
    ("timestamp", bodyTime now)]))

def showStoreHealth (site : Site) : Handler := do
  let book ← readBook
  let directory ← readDirectory
  let rules : Int ← ask (.rules .generation)
  let devices : Int ← ask (.devices .generation)
  let now : Moment ← ask .now
  let loaded (m : Option Moment) : Datum := m.elim .null fun m => .text m.text
  let uri := (site.mongoUri.filter fun uri => uri ≠ "").elim .null fun uri =>
    Datum.text (Config.maskPasswords uri)
  return .ok (.json 200 (.record [("ok", .bool true), ("store_backend", .text site.backend),
    ("mongo_uri_sanitized", uri), ("devices_cached", .int directory.byId.length),
    ("devices_generation", .int devices), ("rules_loaded", .int book.tagCount),
    ("rules_active", .int book.ruleCount), ("rules_generation", .int rules),
    ("timestamp", .text now.text),
    ("meta", .record [("rulesLoadedAt", loaded book.loadedAt),
      ("devicesLoadedAt", loaded directory.loadedAt)])]))

/-! ### Devices -/

def deviceNotFound : Response := .detail 404 "device not found"

def emptyField (name : String) : Response := .detail 400 (name ++ " must not be empty")

def answerDevice (status : Nat) (d : Option Device) : Except Failure Response :=
  match d with
  | some d => respondWith status (deviceView d)
  | none => .ok deviceNotFound

def listDevices : Handler :=
  onStore .listDevices fun devices => return respondWithAll (showAll deviceView devices)

def getDevice (id : Int) : Handler :=
  onStore (.getDevice (.int id)) fun device => return answerDevice 200 device

/-- An address that is taken is a conflict. -/
def refuseDevice (failure : Failure) : Except Failure Response :=
  match failure with
  | .addressTaken _ => .ok (.detail 409 failure.message)
  | _ => .error failure

def createDevice (f : DeviceForm) : Handler := do
  if trim f.name = "" then return .ok (emptyField "name")
  if trim f.address = "" then return .ok (emptyField "address")
  match ← askStore (.createDevice f.draft) with
  | .error failure => return refuseDevice failure
  | .ok device =>
    reloadDevices .deviceChangeNotLoaded
    return answerDevice 201 (some device)

/-- A change of nothing only shows the device. -/
def patchDevice (id : Int) (p : DevicePatch) : Handler := do
  if p.name.any fun s => trim s = "" then return .ok (emptyField "name")
  if p.address.any fun s => trim s = "" then return .ok (emptyField "address")
  if p.changes.isEmpty then getDevice id
  else
    match ← askStore (.updateDevice (.int id) p.changes) with
    | .error failure => return refuseDevice failure
    | .ok (device : Option Device) =>
      if device.isSome then reloadDevices .deviceChangeNotLoaded
      return answerDevice 200 device

def deleteDevice (id : Int) : Handler :=
  onStore (.deleteDevice (.int id)) fun (deleted : Bool) => do
    if deleted then
      reloadDevices .deviceChangeNotLoaded
      return .ok .noContent
    else return .ok deviceNotFound

/-! ### Tags -/

def tagNotFound : Response := .detail 404 "tag not found"

def viewTag (book : Book) (t : Tag) : Checked Datum := tagView t (book.isActive t.id)

def answerTag (status : Nat) (t : Option Tag) : Handler := do
  match t with
  | none => return .ok tagNotFound
  | some t =>
    let book ← readBook
    return respondWith status (viewTag book t)

def listTags (deviceId : Option Int) : Handler :=
  onStore .listTags fun tags => do
    let book ← readBook
    let isShown (t : Tag) : Bool := deviceId.all fun id => t.deviceId == .int id
    return respondWithAll (showAll (viewTag book) (List.filter isShown tags))

def getTag (id : Int) : Handler := onStore (.getTag (.int id)) (answerTag 200)

def createTag (f : TagForm) : Handler := do
  if trim f.name = "" then return .ok (emptyField "name")
  onStore (.createTag f.draft) fun tag => do
    reloadRules .tagChangeNotLoaded
    answerTag 201 (some tag)

/-- A change of nothing only shows the tag. -/
def patchTag (id : Int) (p : TagPatch) : Handler := do
  if p.name.any fun s => trim s = "" then return .ok (emptyField "name")
  if p.changes.isEmpty then getTag id
  else
    onStore (.updateTag (.int id) p.changes) fun (tag : Option Tag) => do
      if tag.isSome then reloadRules .tagChangeNotLoaded
      answerTag 200 tag

def deleteTag (id : Int) : Handler :=
  onStore (.deleteTag (.int id)) fun (deleted : Bool) => do
    if deleted then
      reloadRules .tagChangeNotLoaded
      return .ok .noContent
    else return .ok tagNotFound

/-! ### Messages -/

def sendMessage (s : Submission) : Handler := do
  match ← ingest s with
  | .error failure => return .error failure
  | .ok outcome =>
    let directory ← readDirectory
    return respondWith 200 (outcomeView outcome (directory.describe outcome.message.deviceId))

/-- Which messages to list. -/
structure Selection where
  deviceId : Option Int
  start : Option Moment
  stop : Option Moment
  limit : Int

def readSelection (query : Datum) : Checked Selection :=
  Selection.mk <$> (Field.named "deviceId").optional readInteger query
    <*> (Field.named "start").optional readQueryInstant query
    <*> (Field.named "end").optional readQueryInstant query
    <*> (Field.named "limit").withDefault (readBounded 1 (some 1000)) 100 query

/-- A bound in UTC. -/
def bound (given : Option Moment) : Except RangeFault (Option Moment) :=
  match given with
  | none => .ok none
  | some m => m.toUtc.map some

def listMessages (s : Selection) : Handler :=
  match bound s.start, bound s.stop with
  | .ok start, .ok stop =>
    onStore (.listMessages ⟨s.deviceId.elim .null .int, start, stop, .int s.limit⟩)
      fun (messages : List Message) => onKeys (messages.map (·.deviceId)) do
        let directory ← readDirectory
        let view (m : Message) : Checked Datum := messageView m (directory.describe m.deviceId)
        return respondWithAll (showAll view messages)
  | _, _ => return .error .dateOutOfRange

def countByType (type : String) : Handler :=
  onStore (.countByType (.text type)) fun (counts : List (Datum × Int)) => do
    let directory ← readDirectory
    let view (row : Datum × Int) : Checked Datum :=
      countView row.2 row.1 (directory.describe row.1)
    let body (items : List Datum) : Datum := .record [("message_type", .text type),
      ("items", .list items), ("total", .int items.length)]
    return respondWith 200 ((showAll view counts).map body)

def showMonthReport (days minimum : Int) : Handler := do
  let report ← monthReport (.int days) (.int minimum) none
  return report.map fun r => .json 200 (reportView bodyTime r)

/-! ### Requests -/

/-- What a route does on a method that it allows. -/
def perform (site : Site) (r : Request) : Route → Handler
  | .health => showHealth
  | .storeHealth => showStoreHealth site
  | .devices =>
    if r.verb = "GET" then listDevices
    else onBody r fun given => onSound (readForm DeviceForm.read given) createDevice
  | .device id =>
    let id := readSegment "device_id" id readInteger
    if r.verb = "GET" then onSound id getDevice
    else if r.verb = "DELETE" then onSound id deleteDevice
    else onBody r fun given =>
      onSound (Prod.mk <$> id <*> readForm DevicePatch.read given) fun (id, p) => patchDevice id p
  | .tags =>
    if r.verb = "GET" then
      onSound (r.readQuery ((Field.named "deviceId").optional readInteger)) listTags
    else onBody r fun given => onSound (readForm TagForm.read given) createTag
  | .tag id =>
    let id := readSegment "tag_id" id readInteger
    if r.verb = "GET" then onSound id getTag
    else if r.verb = "DELETE" then onSound id deleteTag
    else onBody r fun given =>
      onSound (Prod.mk <$> id <*> readForm TagPatch.read given) fun (id, p) => patchTag id p
  | .messages => onSound (r.readQuery readSelection) listMessages
  | .sendMessage =>
    onBody r fun given => onSound (readForm readSubmission given) sendMessage
  | .countByType =>
    onSound (r.readQuery ((Field.named "messageType").required readSomeText)) countByType
  | .monthReport =>
    let read (query : Datum) : Checked (Int × Int) :=
      Prod.mk <$> (Field.named "days").withDefault (readBounded 1 (some 366)) defaultReportDays
          query
        <*> (Field.named "minMessages").withDefault (readBounded 0 none) 0 query
    onSound (r.readQuery read) fun (days, minimum) => showMonthReport days minimum

/-- What a failure looks like from outside. -/
def answerFailure (r : Request) (path : String) (failure : Failure) : Activity Response := do
  match failure with
  | .unavailable reason =>
    tellOne (.storeUnavailable r.verb (shownPath path) reason)
    return .unavailable
  | _ => return .internalError

/-- A response to a request for the head of something has no content. -/
def Response.forMethod (method : String) (r : Response) : Response :=
  if method = "HEAD" then { r with content := .nothing } else r

/-- Answers a request. -/
def respond (site : Site) (r : Request) : Activity Response := do
  let path := decodePath (String.ofList r.target.path)
  match Route.ofPath? path with
  | none =>
    return (if Route.isSlashed path then ⟨307, .nothing⟩ else Response.notFound).forMethod r.verb
  | some route =>
    if route.methods.contains r.verb then
      match ← perform site r route with
      | .ok response => return response
      | .error failure => answerFailure r path failure
    else return Response.methodNotAllowed.forMethod r.verb

end DeviceAlerts.Web
