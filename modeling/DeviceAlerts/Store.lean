import DeviceAlerts.Store.Devices
import DeviceAlerts.Store.Messages
import DeviceAlerts.Store.Tags

/-! The store in memory. -/

namespace DeviceAlerts

open DeviceAlerts.Time

structure Store where
  devices : Store.Devices
  tags : Store.Tags
  messages : List Message
  deriving DecidableEq

namespace Store

def empty : Store := ⟨.empty, .empty, []⟩

/-- Answers a call at the given time. -/
def perform (s : Store) (now : Moment) : (c : Call) → Except Failure c.Answer × Store
  | .listDevices => (.ok s.devices.rows, s)
  | .getDevice id => (s.devices.get id, s)
  | .createDevice draft =>
    let (answer, devices) := s.devices.create now draft
    (answer, { s with devices })
  | .updateDevice id changes =>
    let (answer, devices) := s.devices.update now id changes
    (answer, { s with devices })
  | .deleteDevice id =>
    let (answer, devices) := s.devices.delete id
    (answer, { s with devices })
  | .listTags => (.ok s.tags.rows, s)
  | .getTag id => (s.tags.get id, s)
  | .createTag draft =>
    let (tag, tags) := s.tags.create now draft
    (.ok tag, { s with tags })
  | .updateTag id changes =>
    let (answer, tags) := s.tags.update now id changes
    (answer, { s with tags })
  | .deleteTag id =>
    let (answer, tags) := s.tags.delete id
    (answer, { s with tags })
  | .insertMessage m => (.ok (), { s with messages := s.messages ++ [m] })
  | .listMessages query => (query.select s.messages, s)
  | .countByType type => (Store.countByType s.messages type, s)
  | .dailyVolumes since => (Store.dailyVolumes s.messages since, s)

end Store

end DeviceAlerts
