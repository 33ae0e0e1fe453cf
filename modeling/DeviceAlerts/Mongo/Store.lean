import DeviceAlerts.Mongo.Call
import DeviceAlerts.Mongo.Codec
import DeviceAlerts.Mongo.Tally

/-! The store in the database. A store call is one or two requests; what goes wrong with them
becomes a failure of the call. -/

namespace DeviceAlerts.Mongo

open DeviceAlerts.Number DeviceAlerts.Time

/-- A store call on its way: it may fail at every request. -/
abbrev Attempt (α : Type) := ExceptT Failure (Program mongo) α

/-- How the requests of a store call reach the database. -/
structure Access where
  uri : String
  call : String
  limit : Option Binary64

namespace Attempt

def ofProgram {α : Type} (p : Program mongo (Except Failure α)) : Attempt α := ExceptT.mk p

def ofExcept {α : Type} (e : Except Failure α) : Attempt α := ExceptT.mk (pure e)

def now : Attempt Moment := ExceptT.lift (ask .now)

/-- Changes the failure that an attempt may end with. -/
def withFailure {α : Type} (f : Failure → Failure) (attempt : Attempt α) : Attempt α :=
  ExceptT.adapt f attempt

end Attempt

namespace Access

variable (a : Access)

/-- Connects if need be. -/
def reach : Attempt Unit :=
  .ofProgram ((Except.mapError (Fault.failure a.call) ·) <$> Mongo.reach a.uri a.limit)

/-- Sends a request over the connection. -/
def send (request : Request) : Attempt request.Answer :=
  .ofProgram ((Except.mapError (Fault.failure a.call) ·) <$> drive request a.limit)

/-- Asks for one request, connecting first if need be. -/
def request (r : Request) : Attempt r.Answer := do
  a.reach
  a.send r

/-! ### Records of any kind -/

def list {α : Type} (on : Collection) (read : Document → Except Failure α) : Attempt (List α) := do
  let answer : List Datum ← a.request (.find on .all ⟨"id", .ascending⟩ none)
  .ofExcept (answer.mapM fun d => Document.ofDatum d >>= read)

/-- The record in an answer; an empty document is none. -/
def readOne {α : Type} (read : Document → Except Failure α) (answer : Datum) :
    Attempt (Option α) :=
  if answer.isTruthy then some <$> .ofExcept (Document.ofDatum answer >>= read) else return none

def get {α : Type} (on : Collection) (read : Document → Except Failure α) (id : Datum) :
    Attempt (Option α) := do
  a.reach
  let id ← .ofExcept id.readInteger
  let answer : Datum ← a.send (.findOne on (.number id))
  readOne read answer

def update (on : Collection) (id : Datum) (fields : List (String × Datum)) :
    Attempt Datum := do
  a.reach
  let id ← .ofExcept id.readInteger
  a.send (.findAndUpdate on (.number id) (.set fields))

def delete (on : Collection) (id : Datum) : Attempt Bool := do
  a.reach
  let id ← .ofExcept id.readInteger
  let gone : Datum ← a.send (.delete on (.number id))
  .ofExcept ((gone.stands .above (.int 0)).mapError .misuse)

/-- The next number for a record of a collection; it is used up, whatever becomes of the record. -/
def nextId (on : Collection) : Attempt Int := do
  let answer : Datum ← a.request (.findAndUpdate .counters (.counter on.name) .advance)
  .ofExcept (do (← Document.ofDatum answer).needInteger "seq")

/-! ### Devices -/

/-- A device whose key is taken is one whose address is taken. -/
def addressFailure (address : Datum) : Failure → Failure
  | .duplicateKey _ => .addressTaken address
  | failure => failure

def insertDevice (draft : DeviceDraft) : Attempt Document := do
  let now ← .now
  let id ← a.nextId .devices
  let document ← .ofExcept (draft.document id now)
  let _ ← a.request (.insert .devices document)
  return document

def createDevice (draft : DeviceDraft) : Attempt Device := do
  let document ← (a.insertDevice draft).withFailure (addressFailure draft.address)
  .ofExcept (Device.ofDocument document)

def updateDevice (id : Datum) (changes : List DeviceChange) : Attempt (Option Device) := do
  let fields ← .ofExcept (DeviceChange.fields changes)
  let now ← .now
  let address := (changes.filterMap DeviceChange.address?).head?.getD .null
  let answer ← (a.update .devices id (fields ++ [("updatedAt", .moment now)])).withFailure
    (addressFailure address)
  readOne Device.ofDocument answer

/-! ### Tags -/

def createTag (draft : TagDraft) : Attempt Tag := do
  let now ← .now
  let id ← a.nextId .tags
  let document ← .ofExcept (draft.document id now)
  let _ ← a.request (.insert .tags document)
  .ofExcept (Tag.ofDocument document)

def updateTag (id : Datum) (changes : List TagChange) : Attempt (Option Tag) := do
  let fields ← .ofExcept (TagChange.fields changes)
  let now ← .now
  let answer ← a.update .tags id (fields ++ [("updatedAt", .moment now)])
  readOne Tag.ofDocument answer

/-! ### Messages -/

def insertMessage (m : Message) : Attempt Unit := do
  let document ← .ofExcept m.document
  let _ ← a.request (.insert .messages document)

/-- The device that a query is about. -/
def queryDevice : Datum → Except Failure (Option Int)
  | .null => .ok none
  | id => some <$> id.readInteger

def listMessages (query : Store.Query) : Attempt (List Message) := do
  let deviceId ← .ofExcept (queryDevice query.deviceId)
  a.reach
  let limit ← .ofExcept query.limit.readInteger
  let answer : List Datum ← a.send
    (.find .messages (.messages deviceId query.start query.stop) ⟨"gotAt", .descending⟩
      (some limit))
  .ofExcept (answer.mapM fun d => Message.fieldsOf d >>= Message.ofDocument)

def readCount (row : Datum) : Except Failure (Datum × Int) := do
  let d ← Document.ofDatum row
  return (.int (← d.needInteger "_id"), ← d.needInteger "count")

def countByType (type : Datum) : Attempt (List (Datum × Int)) := do
  let answer : List Datum ← a.request (.aggregate .messages (.countByDevice type))
  .ofExcept (answer.mapM readCount)

def dailyVolumes (since : Moment) : Attempt (List DailyVolume) := do
  let answer : List Datum ← a.request (.aggregate .messages (.dailyTallies since))
  .ofExcept (Mongo.dailyVolumes answer)

end Access

/-- A store call in the database. -/
def attempt (uri : String) (limit : Option Binary64) (c : Store.Call) : Attempt c.Answer :=
  let a : Access := ⟨uri, c.name, limit⟩
  match c with
  | .listDevices => a.list .devices Device.ofDocument
  | .getDevice id => a.get .devices Device.ofDocument id
  | .createDevice draft => a.createDevice draft
  | .updateDevice id changes => a.updateDevice id changes
  | .deleteDevice id => a.delete .devices id
  | .listTags => a.list .tags Tag.ofDocument
  | .getTag id => a.get .tags Tag.ofDocument id
  | .createTag draft => a.createTag draft
  | .updateTag id changes => a.updateTag id changes
  | .deleteTag id => a.delete .tags id
  | .insertMessage m => a.insertMessage m
  | .listMessages query => a.listMessages query
  | .countByType type => a.countByType type
  | .dailyVolumes since => a.dailyVolumes since

def perform (uri : String) (limit : Option Binary64) (c : Store.Call) :
    Program mongo (Except Failure c.Answer) :=
  (attempt uri limit c).run

end DeviceAlerts.Mongo
