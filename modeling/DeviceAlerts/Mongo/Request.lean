import DeviceAlerts.Message
import DeviceAlerts.Mongo.Document

/-! What the database is asked: requests on its collections, each with the documents in which its
filters, changes and pipelines are sent. -/

namespace DeviceAlerts.Mongo

open DeviceAlerts.Time

inductive Collection
  | devices
  | tags
  | messages
  /-- The last number given to a device and to a tag. -/
  | counters
  deriving DecidableEq

def Collection.name : Collection → String
  | devices => "devices"
  | tags => "tags"
  | messages => "messages"
  | counters => "counters"

inductive Direction
  | ascending
  | descending
  deriving DecidableEq

def Direction.sign : Direction → Int
  | ascending => 1
  | descending => -1

/-- A key by which documents are put in order. -/
structure Key where
  field : String
  direction : Direction
  deriving DecidableEq

/-! ### Filters and changes -/

inductive Filter
  | all
  /-- The record of a number. -/
  | number (id : Int)
  /-- The counter of a name. -/
  | counter (name : String)
  /-- The messages of a device, when one is given, between two inclusive bounds. -/
  | messages (deviceId : Option Int) (start stop : Option Moment)
  deriving DecidableEq

namespace Filter

def bounds (start stop : Option Moment) : Document :=
  (start.map fun m => ("$gte", Datum.moment m)).toList ++
    (stop.map fun m => ("$lte", Datum.moment m)).toList

def document : Filter → Document
  | all => []
  | number id => [("id", .int id)]
  | counter name => [("_id", .text name)]
  | messages deviceId start stop =>
    (deviceId.map fun id => ("deviceId", Datum.int id)).toList ++
      if (bounds start stop).isEmpty then [] else [("gotAt", .record (bounds start stop))]

end Filter

inductive Update
  /-- Counts one further; a counter that is not there starts from zero. -/
  | advance
  | set (fields : List (String × Datum))
  deriving DecidableEq

namespace Update

def document : Update → Document
  | advance => [("$inc", .record [("seq", .int 1)])]
  | set fields => [("$set", .record fields)]

/-- Whether a document that is missing is made. -/
def makes : Update → Bool
  | advance => true
  | set _ => false

/-- Whether the database's own key is left out of the answer. -/
def hidesKey : Update → Bool
  | advance => false
  | set _ => true

end Update

/-! ### Pipelines -/

inductive Pipeline
  /-- How many messages of a type each device sent. -/
  | countByDevice (type : Datum)
  /-- What came in from an instant on, by device, type, day and component. -/
  | dailyTallies (since : Moment)
  deriving DecidableEq

namespace Pipeline

/-- A value that counts critical messages only. -/
def ifCritical (value other : Datum) : Datum :=
  let isCritical :=
    Datum.record [("$eq", .list [.text "$severityLevel", .text Message.criticalSeverity])]
  .record [("$cond", .list [isCritical, value, other])]

def dayOfMessage : Datum :=
  .record [("$dateToString", .record [("format", .text "%Y-%m-%d"), ("date", .text "$gotAt"),
    ("timezone", .text "UTC")])]

def stages : Pipeline → List Document
  | countByDevice type =>
    [[("$match", .record [("messageType", type)])],
      [("$group", .record [("_id", .text "$deviceId"), ("count", .record [("$sum", .int 1)])])],
      [("$sort", .record [("_id", .int 1)])]]
  | dailyTallies since =>
    let key := Datum.record [("deviceId", .text "$deviceId"), ("messageType", .text "$messageType"),
      ("day", dayOfMessage), ("component", .text "$component")]
    [[("$match", .record [("gotAt", .record [("$gte", .moment since)])])],
      [("$group", .record [("_id", key), ("total", .record [("$sum", .int 1)]),
        ("critical", .record [("$sum", ifCritical (.int 1) (.int 0))]),
        ("firstCritical", .record [("$min", ifCritical (.text "$gotAt") .null)]),
        ("lastCritical", .record [("$max", ifCritical (.text "$gotAt") .null)])])]]

end Pipeline

/-! ### Indexes -/

structure Index where
  name : String
  on : Collection
  keys : List Key
  isUnique : Bool
  deriving DecidableEq

namespace Index

/-- The indexes that the collections need; messages are matched to devices by address, so no two
devices share one. -/
def all : List Index :=
  [⟨"idx_devices_id", .devices, [⟨"id", .ascending⟩], true⟩,
    ⟨"idx_devices_address", .devices, [⟨"address", .ascending⟩], true⟩,
    ⟨"idx_tags_id", .tags, [⟨"id", .ascending⟩], true⟩,
    ⟨"idx_tags_deviceId", .tags, [⟨"deviceId", .ascending⟩], false⟩,
    ⟨"idx_messages_device_gotAt", .messages, [⟨"deviceId", .ascending⟩, ⟨"gotAt", .descending⟩],
      false⟩,
    ⟨"idx_messages_gotAt_desc", .messages, [⟨"gotAt", .descending⟩], false⟩,
    ⟨"idx_messages_type_device", .messages, [⟨"messageType", .ascending⟩, ⟨"deviceId", .ascending⟩],
      false⟩]

end Index

/-! ### Requests -/

inductive Request
  | connect (uri : String)
  | disconnect
  | ping (millis : Int)
  | createIndex (index : Index)
  | find (on : Collection) (filter : Filter) (order : Key) (limit : Option Int)
  | findOne (on : Collection) (filter : Filter)
  /-- Changes a document and answers it as it is then. -/
  | findAndUpdate (on : Collection) (filter : Filter) (update : Update)
  | insert (on : Collection) (document : Document)
  | delete (on : Collection) (filter : Filter)
  | aggregate (on : Collection) (pipeline : Pipeline)
  deriving DecidableEq

/-- What a request that succeeds answers: documents, a document or null, or how many documents are
gone. Nobody checked these values. -/
def Request.Answer : Request → Type
  | connect _ | disconnect | ping _ | createIndex _ | insert _ _ => Unit
  | find _ _ _ _ | aggregate _ _ => List Datum
  | findOne _ _ | findAndUpdate _ _ _ | delete _ _ => Datum

end DeviceAlerts.Mongo
