import DeviceAlerts.Device
import DeviceAlerts.Message
import DeviceAlerts.Store.Failure

/-! What can be asked of a store of devices, tags and messages. Record numbers and limits may be
given as numerals. -/

namespace DeviceAlerts

open DeviceAlerts.Time

/-- The sum of several counts. -/
def sumCounts (counts : List Int) : Int := counts.foldr (· + ·) 0

/-- The messages of one type from one device on one day in UTC. -/
structure DailyVolume where
  deviceId : Datum
  type : Datum
  day : Date
  total : Int
  critical : Int
  components : Table Datum Int
  firstCritical : Datum
  lastCritical : Datum
  deriving DecidableEq

namespace Store

/-- Which messages to list; bounds are inclusive. -/
structure Query where
  deviceId : Datum
  start : Option Moment
  stop : Option Moment
  limit : Datum
  deriving DecidableEq

inductive Call
  | listDevices
  | getDevice (id : Datum)
  | createDevice (draft : DeviceDraft)
  | updateDevice (id : Datum) (changes : List DeviceChange)
  | deleteDevice (id : Datum)
  | listTags
  | getTag (id : Datum)
  | createTag (draft : TagDraft)
  | updateTag (id : Datum) (changes : List TagChange)
  | deleteTag (id : Datum)
  | insertMessage (message : Message)
  | listMessages (query : Query)
  | countByType (type : Datum)
  | dailyVolumes (since : Moment)
  deriving DecidableEq

/-- The three kinds of records. -/
inductive Kind
  | devices
  | tags
  | messages
  deriving DecidableEq

namespace Call

/-- What a call that succeeds answers; a deletion answers whether there was such a record. -/
@[reducible] def Answer : Call → Type
  | listDevices => List Device
  | getDevice _ | updateDevice _ _ => Option Device
  | createDevice _ => Device
  | deleteDevice _ | deleteTag _ => Bool
  | listTags => List Tag
  | getTag _ | updateTag _ _ => Option Tag
  | createTag _ => Tag
  | insertMessage _ => Unit
  | listMessages _ => List Message
  | countByType _ => List (Datum × Int)
  | dailyVolumes _ => List DailyVolume

def kind : Call → Kind
  | listDevices | getDevice _ | createDevice _ | updateDevice _ _ | deleteDevice _ => .devices
  | listTags | getTag _ | createTag _ | updateTag _ _ | deleteTag _ => .tags
  | insertMessage _ | listMessages _ | countByType _ | dailyVolumes _ => .messages

def isRead : Call → Bool
  | listDevices | getDevice _ | listTags | getTag _ | listMessages _ | countByType _
  | dailyVolumes _ => true
  | _ => false

/-- The name of a call in the texts of failures. -/
def name : Call → String
  | listDevices => "list_devices"
  | getDevice _ => "get_device"
  | createDevice _ => "create_device"
  | updateDevice _ _ => "update_device"
  | deleteDevice _ => "delete_device"
  | listTags => "list_tags"
  | getTag _ => "get_tag"
  | createTag _ => "create_tag"
  | updateTag _ _ => "update_tag"
  | deleteTag _ => "delete_tag"
  | insertMessage _ => "insert_message"
  | listMessages _ => "list_messages"
  | countByType _ => "count_by_message_type"
  | dailyVolumes _ => "daily_stats"

end Call

end Store

end DeviceAlerts
