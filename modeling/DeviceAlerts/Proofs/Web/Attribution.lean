import DeviceAlerts.Proofs.Monitor.Delivery
import DeviceAlerts.Proofs.Web.Acceptance

/-! Messages and their devices. A message says from which address it comes, and the directory says
whose address that is. The directory is filled from stored devices whose addresses are apart, so
its two tables always hold the same devices, and as long as no refresh fails they are the stored
ones: a message is filed under the device that has its address now, whatever became of the devices
before. -/

namespace DeviceAlerts

open DeviceAlerts.Monitor DeviceAlerts.Time

namespace Monitor

namespace Site

variable {s : Monitor.Site} (apart : s.store.devices.Apart) (current : s.Current .devices)

include apart current

/-- A directory that is up to date holds the stored devices. -/
theorem lists_of_current : s.directory.snapshot.Lists s.store.devices.rows := by
  obtain ⟨now, byId, byAddress⟩ := current
  have made := Directory.lists_table apart now
  exact ⟨byId.trans made.byId, byAddress.trans made.byAddress, made.ids, made.addresses⟩

/-- A text is the address of a device if and only if the device is stored with it. -/
theorem resolve?_iff (address : String) (id : Datum) :
    s.directory.snapshot.resolve? (.text address) = some id ↔
      ∃ d ∈ s.store.devices.rows, d.id = id ∧ d.address = .text address := by
  rw [(lists_of_current apart current).resolve?_eq_some_iff]
  simp only [Datum.beq_text, and_comm]

theorem describe_stored {d : Device} (stored : d ∈ s.store.devices.rows) :
    s.directory.snapshot.describe d.id = d := by
  obtain ⟨i, -, hid⟩ := apart.sequence.given d stored
  refine (lists_of_current apart current).describe_eq stored ?_
  rw [hid]
  exact Datum.int_beq_int.mpr rfl

theorem describe_missing {i : Int} (missing : ∀ d ∈ s.store.devices.rows, d.id ≠ .int i) :
    s.directory.snapshot.describe (.int i) = Device.unknown := by
  refine (lists_of_current apart current).describe_unknown fun d stored => ?_
  obtain ⟨j, -, hid⟩ := apart.sequence.given d stored
  refine Bool.eq_false_iff.mpr fun same => missing d stored ?_
  rw [hid] at same ⊢
  rw [Datum.int_beq_int.mp same]

/-- The sender of a message is the stored device with its address, or else nobody. -/
theorem sender_cases (p : Submission) :
    (∃ d ∈ s.store.devices.rows, d.address = .text p.address ∧ s.sender p = d.id) ∨
      (∀ d ∈ s.store.devices.rows, d.address ≠ .text p.address) ∧ s.sender p = .int (-1) := by
  unfold sender
  cases hresolved : s.directory.snapshot.resolve? (.text p.address) with
  | some id =>
    obtain ⟨d, stored, hid, address⟩ := (resolve?_iff apart current _ _).mp hresolved
    exact .inl ⟨d, stored, address, hid.symm⟩
  | none =>
    refine .inr ⟨fun d stored address => ?_, rfl⟩
    have := (resolve?_iff apart current p.address d.id).mpr ⟨d, stored, rfl, address⟩
    rw [hresolved] at this
    cases this

end Site

/-- A message that can be stored is stored under its sender. -/
theorem Setting.stored_under_sender {s : Setting} (apart : s.site.store.devices.Apart)
    (upToDate : s.site.UpToDate) {p : Submission}
    (stored : ∀ m, .insertMessage m ∉ s.failures (ingest p)) :
    ∃ m, (s.run (ingest p)).2.site.store.messages = s.site.store.messages ++ [m] ∧
      m.deviceId = s.site.sender p := by
  -- even nobody has a number, so the rules can be looked up for every sender
  have number : ∃ i : Int, s.site.sender p = .int i := by
    have current := upToDate.current .devices
    rcases Site.sender_cases apart current p with ⟨d, hd, -, sender⟩ | ⟨-, sender⟩
    · obtain ⟨i, -, hid⟩ := apart.sequence.given d hd
      exact ⟨i, sender.trans hid⟩
    · exact ⟨-1, sender⟩
  obtain ⟨i, hi⟩ := number
  have keyed : (s.site.sender p).asKey = .ok (s.site.sender p) := by
    rw [hi]
    rfl
  obtain ⟨o, ho⟩ := Setting.takesIn keyed (upToDate.within .rules) stored
  obtain ⟨now, transition, rfl⟩ := ho.verdict
  exact ⟨_, ho.messages, congrArg Message.deviceId (s.site.verdict_message p now transition)⟩

end Monitor

namespace Web

/-- From empty stores on, whatever the service deals with, both tables of the directory hold the
same devices. As long as no refresh fails these are the stored ones: an address is resolved to a
number if and only if the device with the number is stored with the address, and that device is what
is found under the number; nothing is found under other numbers. A message that can be stored is
filed under the device that is stored with its address, and under no device if there is none. -/
theorem attributed_after_occasions (site : Site) {s : Setting} (opened : s.site = .fresh .empty)
    (occasions : List Occasion) :
    let last := Course.after (serve site) s occasions
    let directory := last.site.directory.snapshot
    let devices := last.site.store.devices.rows
    directory.byId.values = directory.byAddress.values ∧
    ((∀ told ∈ Course.events (serve site) s occasions, ∀ n ∈ told, n.tellsMiss = false) →
      directory.byId.values = devices ∧
      (∀ (address : String) id, directory.resolve? (.text address) = some id ↔
        ∃ d ∈ devices, d.id = id ∧ d.address = .text address) ∧
      (∀ d ∈ devices, directory.describe d.id = d) ∧
      (∀ i : Int, (∀ d ∈ devices, d.id ≠ .int i) →
        directory.describe (.int i) = Device.unknown) ∧
      ∀ p : Submission, (∀ m, .insertMessage m ∉ last.failures (ingest p)) →
        ∃ m, (last.run (ingest p)).2.site.store.messages = last.site.store.messages ++ [m] ∧
          ((∃ d ∈ devices, d.address = .text p.address ∧ m.deviceId = d.id) ∨
            (∀ d ∈ devices, d.address ≠ .text p.address) ∧ m.deviceId = .int (-1))) := by
  intro last directory devices
  have tidy : last.site.Tidy :=
    tidy_after site (opened ▸ Monitor.Site.tidy_fresh) occasions
  have apart := tidy.store.apart
  refine ⟨?_, fun loaded => ?_⟩
  · obtain ⟨listed, lists⟩ := tidy.directory
    exact lists.values_byId.trans lists.values_byAddress.symm
  · have upToDate : last.site.UpToDate :=
      upToDate_after site (opened ▸ Monitor.Site.upToDate_fresh) loaded
    have current := upToDate.current .devices
    refine ⟨(Monitor.Site.lists_of_current apart current).values_byId,
      Monitor.Site.resolve?_iff apart current,
      fun d stored => Monitor.Site.describe_stored apart current stored,
      fun i missing => Monitor.Site.describe_missing apart current missing, fun p stored => ?_⟩
    obtain ⟨m, hmessages, hsender⟩ := Setting.stored_under_sender apart upToDate stored
    refine ⟨m, hmessages, ?_⟩
    rw [hsender]
    exact Monitor.Site.sender_cases apart current p

/-! Two devices swap their addresses by way of a third one, somebody asks for an address that is
taken, and one of the two is deleted and created again. -/

def deviceBody (name address : String) : Body :=
  .value (.record [("name", .text name), ("deviceType", .text "sensor"),
    ("address", .text address)])

def addressBody (address : String) : Body := .value (.record [("address", .text address)])

def swapDay : List Occasion := [.start,
  .request (asking "POST" "/api/devices" (deviceBody "pump" "10.0.0.1")),
  .request (asking "POST" "/api/devices" (deviceBody "fan" "10.0.0.2")),
  .request (asking "PATCH" "/api/devices/1" (addressBody "10.0.0.9")),
  .request (asking "PATCH" "/api/devices/2" (addressBody "10.0.0.1")),
  .request (asking "PATCH" "/api/devices/1" (addressBody " 10.0.0.2 ")),
  .request (asking "PATCH" "/api/devices/1" (addressBody "10.0.0.1")),
  .request (asking "DELETE" "/api/devices/2" .absent),
  .request (asking "POST" "/api/devices" (deviceBody "fan" "10.0.0.1"))]

theorem attributed_after_occasions_swapDay :
    let last := Course.after (serve ⟨"memory", none⟩) opening swapDay
    let directory := last.site.directory.snapshot
    directory.resolve? (.text "10.0.0.1") = some (.int 3) ∧
    directory.resolve? (.text "10.0.0.2") = some (.int 1) ∧
    directory.describe (.int 2) = Device.unknown ∧
    ∃ m, (last.run (ingest ⟨"9", "General", "core", "10.0.0.9"⟩)).2.site.store.messages = [m] ∧
      m.deviceId = .int (-1) := by
  intro last directory
  obtain ⟨-, attributed⟩ := @attributed_after_occasions ⟨"memory", none⟩ opening rfl swapDay
  obtain ⟨-, resolved, -, missing, stored⟩ := attributed (by decide +kernel)
  have hrows : last.site.store.devices.rows.map (fun d => (d.id, d.address)) =
      [(.int 1, .text "10.0.0.2"), (.int 3, .text "10.0.0.1")] := by decide +kernel
  have held (id address : Datum) : (id, address) ∈ [(Datum.int 1, Datum.text "10.0.0.2"),
      (Datum.int 3, Datum.text "10.0.0.1")] ↔
        ∃ d ∈ last.site.store.devices.rows, d.id = id ∧ d.address = address := by
    rw [← hrows, List.mem_map]
    simp only [Prod.mk.injEq]
  have unfailing : last.failures (ingest ⟨"9", "General", "core", "10.0.0.9"⟩) = [] := by
    decide +kernel
  have hbefore : last.site.store.messages = [] := by decide +kernel
  refine ⟨(resolved _ _).mpr ((held _ _).mp (by simp)),
    (resolved _ _).mpr ((held _ _).mp (by simp)), missing 2 fun d hd hid => ?_, ?_⟩
  · have := (held d.id d.address).mpr ⟨d, hd, rfl, rfl⟩
    simp [hid] at this
  · obtain ⟨m, hmessages, hsender⟩ := stored ⟨"9", "General", "core", "10.0.0.9"⟩ fun m hm => by
      rw [unfailing] at hm
      cases hm
    rw [hbefore] at hmessages
    refine ⟨m, hmessages, hsender.elim ?_ And.right⟩
    rintro ⟨d, hd, address, -⟩
    have := (held d.id d.address).mpr ⟨d, hd, rfl, rfl⟩
    simp [address] at this

end Web

end DeviceAlerts
