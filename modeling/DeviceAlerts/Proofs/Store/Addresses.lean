import DeviceAlerts.Proofs.Store.Devices
import DeviceAlerts.Proofs.Store.Sequence
import Mathlib.Data.List.Pairwise

/-! The addresses of stored devices. Messages are attributed by address, so the store in memory
keeps the addresses apart: whatever it is handed, and in whatever types, no two of its devices have
addresses that count as the same. It refuses a new device or a change because of an address exactly
when another device has that address, and what it refuses leaves the devices as they were.

All that a call can do to the devices is said once, by `Devices.Moves`; the numbers and the
addresses are followed through its five cases. -/

namespace DeviceAlerts.Store

open DeviceAlerts.Time

/-- In a sequence there is one record under a number, if there is any. -/
theorem InSequence.find?_eq_some_iff {α : Type} {id : α → Datum} {next : Int} {rows : List α}
    (h : InSequence id next rows) {i : Int} {r : α} :
    rows.find? (fun r => id r = .int i) = some r ↔ r ∈ rows ∧ id r = .int i := by
  constructor
  · intro hfind
    exact ⟨List.mem_of_find?_eq_some hfind, id_of_find? hfind⟩
  · rintro ⟨stored, hid⟩
    cases hfind : rows.find? (fun r => id r = .int i) with
    | none => exact absurd (decide_eq_true hid) (List.find?_eq_none.mp hfind r stored)
    | some found =>
      have same : id found = id r := (id_of_find? hfind).trans hid.symm
      rw [h.eq_of_id (List.mem_of_find?_eq_some hfind) stored same]

namespace Devices

variable {s : Devices} {now : Moment}

/-! ### Changes of any type -/

theorem change_responsible_eq_ok {d e : Device} {given : Datum}
    (h : change d (.responsible given) = .ok e) :
    ∃ people : List Int, e = { d with responsible := people.map .int } := by
  rw [change] at h
  cases hpeople : given.readIntegers with
  | error failure =>
    rw [hpeople] at h
    cases h
  | ok people =>
    rw [hpeople] at h
    cases h
    exact ⟨people, rfl⟩

theorem changeAll_cons_eq_ok {d e : Device} {c : DeviceChange} {rest : List DeviceChange}
    (h : changeAll d (c :: rest) = .ok e) :
    ∃ mid, change d c = .ok mid ∧ changeAll mid rest = .ok e := by
  rw [changeAll, List.foldlM_cons] at h
  cases hc : change d c with
  | error failure =>
    rw [hc] at h
    cases h
  | ok mid =>
    rw [hc] at h
    exact ⟨mid, rfl, h⟩

theorem change_eq_ok {d e : Device} {c : DeviceChange} (h : change d c = .ok e) :
    e.id = d.id ∧ e.createdAt = d.createdAt ∧ e.address = c.address?.getD d.address := by
  cases c with
  | responsible given =>
    obtain ⟨people, rfl⟩ := change_responsible_eq_ok h
    exact ⟨rfl, rfl, rfl⟩
  | _ =>
    cases h
    exact ⟨rfl, rfl, rfl⟩

/-- Changes that are made leave the number and the time of creation, and the last address given is
the address in the end. -/
theorem changeAll_eq_ok {d e : Device} {changes : List DeviceChange}
    (h : changeAll d changes = .ok e) :
    e.id = d.id ∧ e.createdAt = d.createdAt ∧
      e.address = (changes.filterMap DeviceChange.address?).getLast?.getD d.address := by
  induction changes generalizing d with
  | nil =>
    cases h
    exact ⟨rfl, rfl, rfl⟩
  | cons c rest ih =>
    obtain ⟨mid, hc, hrest⟩ := changeAll_cons_eq_ok h
    obtain ⟨hid, hcreated, haddress⟩ := ih hrest
    obtain ⟨hid', hcreated', haddress'⟩ := change_eq_ok hc
    refine ⟨hid.trans hid', hcreated.trans hcreated', ?_⟩
    rw [haddress, haddress', List.filterMap_cons]
    -- an address that is given first counts only if none is given after it
    cases c with
    | address given => exact (congrArg (·.getD d.address) (List.getLast?_cons)).symm
    | _ => rfl

theorem readIntegers_ne_addressTaken (given a : Datum) :
    given.readIntegers ≠ .error (.addressTaken a) := by
  intro h
  rw [Datum.readIntegers] at h
  cases hitems : given.items with
  | error fault =>
    rw [hitems] at h
    cases h
  | ok items =>
    rw [hitems] at h
    change (Datum.toIntegers items).mapError Failure.notInteger = _ at h
    cases hread : Datum.toIntegers items with
    | error fault =>
      rw [hread] at h
      cases h
    | ok people =>
      rw [hread] at h
      cases h

/-- Changes fail for their numerals alone. -/
theorem changeAll_ne_addressTaken (d : Device) (changes : List DeviceChange) (a : Datum) :
    changeAll d changes ≠ .error (.addressTaken a) := by
  induction changes generalizing d with
  | nil => nofun
  | cons c rest ih =>
    intro h
    rw [changeAll, List.foldlM_cons] at h
    cases hc : change d c with
    | ok mid =>
      rw [hc] at h
      exact ih mid h
    | error failure =>
      rw [hc] at h
      cases h
      cases c with
      | responsible given =>
        cases hpeople : given.readIntegers with
        | error failure =>
          rw [change, hpeople] at hc
          cases hc
          exact readIntegers_ne_addressTaken given a hpeople
        | ok people =>
          rw [change, hpeople] at hc
          cases hc
      | _ => cases hc

/-! ### What a call can do -/

theorem addressTaken_eq_true {a : Datum} {except : Option Datum} :
    s.addressTaken a except = true ↔
      ∃ d ∈ s.rows, (d.address == a) = true ∧ some d.id ≠ except := by
  simp [addressTaken]

/-- A call leaves the devices as they are, wastes a number, puts a new device at the end, changes
one in its place or removes one. A new address is not the address of another device. -/
inductive Moves (s : Devices) : Devices → Prop
  | stays : Moves s s
  | skips : Moves s { s with nextId := s.nextId + 1 }
  | adds {new : Device} (number : new.id = .int s.nextId)
    (free : ∀ d ∈ s.rows, (d.address == new.address) = false) :
    Moves s ⟨s.nextId + 1, s.rows ++ [new]⟩
  | replaces {old new : Device} (stored : old ∈ s.rows) (number : new.id = old.id)
    (created : new.createdAt = old.createdAt)
    (free : new.address = old.address ∨
      ∀ d ∈ s.rows, d.id ≠ old.id → (d.address == new.address) = false) :
    Moves s (s.replace new)
  | removes (i : Int) : Moves s { s with rows := s.rows.filter fun d => d.id ≠ .int i }

/-- A draft that is not refused becomes the last device; its people may cost it a number. -/
theorem create_cases (s : Devices) (now : Moment) (draft : DeviceDraft) :
    (∃ failure, s.create now draft = (.error failure, s)) ∨
    (∃ failure, s.create now draft = (.error failure, { s with nextId := s.nextId + 1 })) ∨
    ∃ people, (∀ d ∈ s.rows, (d.address == draft.address) = false) ∧
      s.create now draft = (.ok (draft.stored people s.nextId now),
        ⟨s.nextId + 1, s.rows ++ [draft.stored people s.nextId now]⟩) := by
  unfold create
  split
  · exact .inl ⟨_, rfl⟩
  · next hfree =>
    cases draft.responsible.readIntegers with
    | error failure => exact .inr (.inl ⟨failure, rfl⟩)
    | ok people =>
      refine .inr (.inr ⟨people, fun d hd => Bool.eq_false_iff.mpr fun same => hfree ?_, rfl⟩)
      exact addressTaken_eq_true.mpr ⟨d, hd, same, nofun⟩

theorem moves_create (s : Devices) (now : Moment) (draft : DeviceDraft) :
    s.Moves (s.create now draft).2 := by
  rcases s.create_cases now draft with ⟨_, h⟩ | ⟨_, h⟩ | ⟨people, free, h⟩ <;> rw [h]
  · exact .stays
  · exact .skips
  · exact .adds rfl free

/-- The changes of a revision are made, and no address that they give is taken. -/
theorem of_revise {old new : Device} {changes : List DeviceChange}
    (h : s.revise now old changes = .ok new) :
    ∃ changed, changeAll old changes = .ok changed ∧
      new = { changed with updatedAt := .moment now } ∧
      ∀ a ∈ changes.filterMap DeviceChange.address?, s.addressTaken a (some old.id) = false := by
  unfold revise at h
  split at h
  · cases h
  · next hfree =>
    cases hchanged : changeAll old changes with
    | error failure =>
      rw [hchanged] at h
      cases h
    | ok changed =>
      rw [hchanged] at h
      cases h
      exact ⟨changed, rfl, rfl,
        fun a ha => Bool.eq_false_iff.mpr (List.find?_eq_none.mp hfree a ha)⟩

/-- A revision of a device may keep its address or take one that no other device has. -/
theorem revise_eq_ok {old new : Device} {changes : List DeviceChange}
    (h : s.revise now old changes = .ok new) :
    new.id = old.id ∧ new.createdAt = old.createdAt ∧ (new.address = old.address ∨
      ∀ d ∈ s.rows, d.id ≠ old.id → (d.address == new.address) = false) := by
  obtain ⟨changed, hchanged, rfl, hfree⟩ := of_revise h
  obtain ⟨number, created, address⟩ := changeAll_eq_ok hchanged
  refine ⟨number, created, ?_⟩
  show changed.address = old.address ∨
    ∀ d ∈ s.rows, d.id ≠ old.id → (d.address == changed.address) = false
  rw [address]
  cases hlast : (changes.filterMap DeviceChange.address?).getLast? with
  | none => exact .inl rfl
  | some a =>
    refine .inr fun d hd other => Bool.eq_false_iff.mpr fun same => ?_
    have taken : s.addressTaken a (some old.id) = true :=
      addressTaken_eq_true.mpr ⟨d, hd, same, fun hid => other (Option.some.inj hid)⟩
    rw [hfree a (List.mem_of_getLast? hlast)] at taken
    cases taken

/-- An update that changes anything puts the revision of a stored device in its place. -/
theorem update_cases (s : Devices) (now : Moment) (id : Datum) (changes : List DeviceChange) :
    (s.update now id changes).2 = s ∧ (∀ new, (s.update now id changes).1 ≠ .ok (some new)) ∨
      ∃ old new, old ∈ s.rows ∧ s.revise now old changes = .ok new ∧
        s.update now id changes = (.ok (some new), s.replace new) := by
  simp only [update]
  split
  · exact .inl ⟨rfl, fun new h => by cases h⟩
  · cases id.readInteger with
    | error failure => exact .inl ⟨rfl, fun new h => by cases h⟩
    | ok i =>
      cases hfind : s.find? i with
      | none =>
        simp only [hfind]
        exact .inl ⟨trivial, fun new h => by cases h⟩
      | some old =>
        cases hrevised : s.revise now old changes with
        | error failure =>
          simp only [hfind, hrevised]
          exact .inl ⟨trivial, fun new h => by cases h⟩
        | ok new =>
          simp only [hfind, hrevised]
          exact .inr ⟨old, new, List.mem_of_find?_eq_some hfind, hrevised, rfl⟩

theorem moves_update (s : Devices) (now : Moment) (id : Datum) (changes : List DeviceChange) :
    s.Moves (s.update now id changes).2 := by
  rcases s.update_cases now id changes with ⟨same, -⟩ | ⟨old, new, stored, revised, updated⟩
  · rw [same]
    exact .stays
  · obtain ⟨number, created, free⟩ := revise_eq_ok revised
    rw [updated]
    exact .replaces stored number created free

theorem moves_delete (s : Devices) (id : Datum) : s.Moves (s.delete id).2 := by
  unfold delete
  cases id.readInteger with
  | error failure => exact .stays
  | ok i => exact .removes i

/-! ### Numbers and addresses -/

/-- Devices in the order of their numbers, no two of which have addresses that count as the same. -/
structure Apart (s : Devices) : Prop where
  sequence : InSequence Device.id s.nextId s.rows
  addresses : s.rows.Pairwise fun a b => (a.address == b.address) = false

theorem apart_empty : empty.Apart := ⟨.nil _ _, .nil⟩

theorem Apart.address_of_id_ne (h : s.Apart) {a b : Device} (ha : a ∈ s.rows) (hb : b ∈ s.rows)
    (other : a.id ≠ b.id) : (a.address == b.address) = false := by
  have : Std.Symm fun a b : Device => (a.address == b.address) = false :=
    ⟨fun a b hab => BEq.comm.trans hab⟩
  exact h.addresses.forall ha hb fun same => other (congrArg Device.id same)

theorem Apart.replace (h : s.Apart) {old new : Device} (stored : old ∈ s.rows)
    (number : new.id = old.id) (free : new.address = old.address ∨
      ∀ d ∈ s.rows, d.id ≠ old.id → (d.address == new.address) = false) :
    (s.replace new).Apart := by
  have keeps (d : Device) : (if d.id = new.id then new else d).id = d.id := by
    split
    · next same => exact same.symm
    · rfl
  have others : ∀ d ∈ s.rows, d.id ≠ old.id → (d.address == new.address) = false := by
    rcases free with same | free
    · intro d hd other
      rw [same]
      exact h.address_of_id_ne hd stored other
    · exact free
  refine ⟨h.sequence.map keeps, List.pairwise_map.mpr ?_⟩
  refine (h.sequence.id_ne.and h.addresses).imp_of_mem fun {a b} ha hb apart => ?_
  obtain ⟨different, address⟩ := apart
  rw [number]
  -- the new record stands in the place of at most one of the two
  by_cases hold : a.id = old.id
  · have hother : b.id ≠ old.id := fun same => different (hold.trans same.symm)
    rw [if_pos hold, if_neg hother, BEq.comm]
    exact others b hb hother
  · rw [if_neg hold]
    split
    · exact others a ha hold
    · exact address

theorem Moves.apart {s' : Devices} (moves : s.Moves s') (h : s.Apart) : s'.Apart := by
  cases moves with
  | stays => exact h
  | skips => exact ⟨h.sequence.succ, h.addresses⟩
  | adds number free =>
    refine ⟨h.sequence.append number, List.pairwise_append.mpr
      ⟨h.addresses, List.pairwise_singleton _ _, fun a ha b hb => ?_⟩⟩
    obtain rfl := List.mem_singleton.mp hb
    exact free a ha
  | replaces stored number created free => exact h.replace stored number free
  | removes i => exact ⟨h.sequence.sublist List.filter_sublist,
      h.addresses.sublist List.filter_sublist⟩

end Devices

theorem moves_perform (s : Store) (now : Moment) (c : Call) :
    s.devices.Moves (s.perform now c).2.devices := by
  cases c with
  | createDevice draft => exact Devices.moves_create _ now draft
  | updateDevice id changes => exact Devices.moves_update _ now id changes
  | deleteDevice id => exact Devices.moves_delete _ id
  | _ => exact .stays

theorem Reachable.apart {s : Store} (h : s.Reachable) : s.devices.Apart := by
  induction h with
  | empty => exact Devices.apart_empty
  | perform _ now c ih => exact (moves_perform _ now c).apart ih

/-! ### Refusals -/

namespace Devices

variable {s : Devices} {now : Moment}

/-- A new device is refused for its address exactly when a stored device has it. -/
theorem create_addressTaken_iff {draft : DeviceDraft} :
    (∃ a, (s.create now draft).1 = .error (.addressTaken a)) ↔
      ∃ d ∈ s.rows, (d.address == draft.address) = true := by
  have taken : s.addressTaken draft.address none = true ↔
      ∃ d ∈ s.rows, (d.address == draft.address) = true := by
    simp [addressTaken]
  rw [← taken]
  unfold create
  split
  · next htaken => exact iff_of_true ⟨_, rfl⟩ htaken
  · next hfree =>
    refine iff_of_false ?_ hfree
    rintro ⟨a, ha⟩
    cases hpeople : draft.responsible.readIntegers with
    | error failure =>
      rw [hpeople] at ha
      cases ha
      exact readIntegers_ne_addressTaken _ _ hpeople
    | ok people =>
      rw [hpeople] at ha
      cases ha

/-- Changes are refused for an address exactly when they give one that another device has. -/
theorem revise_addressTaken_iff {old : Device} {changes : List DeviceChange} :
    (∃ a, s.revise now old changes = .error (.addressTaken a)) ↔
      ∃ a ∈ changes.filterMap DeviceChange.address?, ∃ d ∈ s.rows,
        d.id ≠ old.id ∧ (d.address == a) = true := by
  have taken (a : Datum) : s.addressTaken a (some old.id) = true ↔
      ∃ d ∈ s.rows, d.id ≠ old.id ∧ (d.address == a) = true := by
    simp [addressTaken, and_comm]
  simp only [← taken]
  unfold revise
  split
  · next a hfind =>
    have htaken : s.addressTaken a (some old.id) = true := by simpa using List.find?_some hfind
    exact iff_of_true ⟨a, rfl⟩ ⟨a, List.mem_of_find?_eq_some hfind, htaken⟩
  · next hfree =>
    refine iff_of_false ?_ ?_
    · rintro ⟨a, ha⟩
      cases hchanged : changeAll old changes with
      | error failure =>
        rw [hchanged] at ha
        cases ha
        exact changeAll_ne_addressTaken old changes _ hchanged
      | ok changed =>
        rw [hchanged] at ha
        cases ha
    · rintro ⟨a, ha, htaken⟩
      exact List.find?_eq_none.mp hfree a ha htaken

/-- An update of a stored device by fields that there are is the revision of it. -/
theorem Apart.update_stored (h : s.Apart) {id : Datum} {i : Int} {old : Device}
    {changes : List DeviceChange} (known : changes.filterMap DeviceChange.unknown? = [])
    (number : id.readInteger = .ok i) (stored : old ∈ s.rows) (hid : old.id = .int i) :
    s.update now id changes = match s.revise now old changes with
      | .error failure => (.error failure, s)
      | .ok new => (.ok (some new), s.replace new) := by
  have hfind : s.find? i = some old := h.sequence.find?_eq_some_iff.mpr ⟨stored, hid⟩
  simp only [update, known, number, hfind]
  rfl

/-- An update by the address that a device already has is made. -/
theorem Apart.update_own_address (h : s.Apart) {id : Datum} {i : Int} {old : Device}
    (number : id.readInteger = .ok i) (stored : old ∈ s.rows) (hid : old.id = .int i) :
    (s.update now id [.address old.address]).1 =
      .ok (some { old with updatedAt := .moment now }) := by
  have free : s.addressTaken old.address (some old.id) = false := by
    refine Bool.eq_false_iff.mpr fun taken => ?_
    obtain ⟨d, hd, same, other⟩ := addressTaken_eq_true.mp taken
    have := h.address_of_id_ne hd stored fun hid => other (congrArg some hid)
    rw [this] at same
    cases same
  rw [h.update_stored rfl number stored hid]
  simp only [revise, DeviceChange.address?, List.filterMap_cons, List.filterMap_nil,
    List.find?_cons, free]
  rfl

end Devices

/-- A call that fails leaves the devices as they were, even if a number is wasted. -/
theorem rows_devices_of_error {s : Store} {now : Moment} {c : Call} {failure : Failure}
    (h : (s.perform now c).1 = .error failure) :
    (s.perform now c).2.devices.rows = s.devices.rows := by
  cases c with
  | createDevice draft =>
    exact Devices.rows_create fun device hdevice => by cases hdevice.symm.trans h
  | updateDevice id changes =>
    have same : (s.devices.update now id changes).2 = s.devices :=
      Devices.update_eq_self fun device hdevice => by cases hdevice.symm.trans h
    exact congrArg Devices.rows same
  | deleteDevice id =>
    have same : (s.devices.delete id).2 = s.devices :=
      Devices.delete_eq_self fun hdeleted => by cases hdeleted.symm.trans h
    exact congrArg Devices.rows same
  | _ => rfl

/-- Whatever was asked for before, no two stored devices have the same address. A new device is
refused for its address exactly when a stored device has it, and a change of a stored device exactly
when it gives an address of another; its own address it can be given again. Whatever is refused
leaves the list of devices as it was. -/
theorem Reachable.addresses_apart {s : Store} (h : s.Reachable) (now : Moment) :
    (s.devices.rows.Pairwise fun a b => (a.address == b.address) = false) ∧
    (∀ draft, (∃ a, (s.perform now (.createDevice draft)).1 = .error (.addressTaken a)) ↔
      ∃ d ∈ s.devices.rows, (d.address == draft.address) = true) ∧
    (∀ old ∈ s.devices.rows, ∀ id i changes, id.readInteger = .ok i → old.id = .int i →
      changes.filterMap DeviceChange.unknown? = [] →
      ((∃ a, (s.perform now (.updateDevice id changes)).1 = .error (.addressTaken a)) ↔
        ∃ a ∈ changes.filterMap DeviceChange.address?, ∃ d ∈ s.devices.rows,
          d.id ≠ old.id ∧ (d.address == a) = true)) ∧
    (∀ old ∈ s.devices.rows, ∀ id i, id.readInteger = .ok i → old.id = .int i →
      (s.perform now (.updateDevice id [.address old.address])).1 =
        .ok (some { old with updatedAt := .moment now })) ∧
    ∀ c failure later, (s.perform now c).1 = .error failure →
      ((s.perform now c).2.perform later .listDevices).1 = (s.perform later .listDevices).1 := by
  have apart := h.apart
  refine ⟨apart.addresses, fun draft => Devices.create_addressTaken_iff, ?_, ?_, ?_⟩
  · intro old stored id i changes number hid known
    have refused := @Devices.revise_addressTaken_iff s.devices now old changes
    rw [← refused]
    show (∃ a, (s.devices.update now id changes).1 = .error (.addressTaken a)) ↔ _
    rw [apart.update_stored known number stored hid]
    cases s.devices.revise now old changes with
    | error failure => simp
    | ok new => simp
  · intro old stored id i number hid
    exact apart.update_own_address number stored hid
  · intro c failure later hfailed
    exact congrArg Except.ok (rows_devices_of_error hfailed)

/-! A pump and a fan. The fan cannot have the address of the pump, but it can be given its own
address again; a third device whose people are no numbers is refused and wastes a number. -/

def machine (name address : String) (people : Datum) : DeviceDraft :=
  ⟨.text name, .text "sensor", .text address, people⟩

def pump : Device := (machine "pump" "10.0.0.1" .null).stored [7] 1 ⟨0, some 0⟩

def fan : Device := (machine "fan" "10.0.0.2" .null).stored [] 2 ⟨1, some 0⟩

def pumpAndFan : Store :=
  ((empty.perform ⟨0, some 0⟩ (.createDevice (machine "pump" "10.0.0.1" (.text "7")))).2.perform
    ⟨1, some 0⟩ (.createDevice (machine "fan" "10.0.0.2" (.list [])))).2

theorem rows_pumpAndFan : pumpAndFan.devices.rows = [pump, fan] := by decide +kernel

theorem addresses_apart_pumpAndFan :
    pumpAndFan.Reachable ∧
    (pump.address == fan.address) = false ∧
    (∃ a, (pumpAndFan.perform ⟨2, some 0⟩
      (.createDevice (machine "valve" "10.0.0.2" .null))).1 = .error (.addressTaken a)) ∧
    (∃ a, (pumpAndFan.perform ⟨2, some 0⟩
      (.updateDevice (.text "2") [.name (.text "vent"), .address (.text "10.0.0.1")])).1 =
        .error (.addressTaken a)) ∧
    (pumpAndFan.perform ⟨2, some 0⟩
      (.updateDevice (.text "2") [.address (.text "10.0.0.2")])).1 =
        .ok (some { fan with updatedAt := .moment ⟨2, some 0⟩ }) ∧
    ((pumpAndFan.perform ⟨2, some 0⟩
      (.createDevice (machine "valve" "10.0.0.3" (.text "x")))).2.perform ⟨3, some 0⟩
        .listDevices).1 = .ok [pump, fan] := by
  have reachable : pumpAndFan.Reachable := .perform (.perform .empty _ _) _ _
  obtain ⟨apart, created, updated, own, failed⟩ := reachable.addresses_apart ⟨2, some 0⟩
  have two : (Datum.text "2").readInteger = .ok 2 := by decide +kernel
  have hpump : pump ∈ pumpAndFan.devices.rows := by
    rw [rows_pumpAndFan]
    exact List.mem_cons_self
  have hfan : fan ∈ pumpAndFan.devices.rows := by
    rw [rows_pumpAndFan]
    exact List.mem_cons_of_mem _ List.mem_cons_self
  refine ⟨reachable, ?_, ?_, ?_, own fan hfan _ 2 two rfl, ?_⟩
  · rw [rows_pumpAndFan] at apart
    exact (List.pairwise_cons.mp apart).1 fan List.mem_cons_self
  · exact (created _).mpr ⟨fan, hfan, Datum.beq_text.mpr rfl⟩
  · refine (updated fan hfan _ 2 _ two rfl rfl).mpr ⟨.text "10.0.0.1", ?_, pump, hpump, ?_, ?_⟩
    · exact List.mem_cons_self
    · decide
    · exact Datum.beq_text.mpr rfl
  · rw [failed _ (.notInteger (.numeral "x" .malformed)) ⟨3, some 0⟩ (by decide +kernel)]
    exact congrArg Except.ok rows_pumpAndFan

end DeviceAlerts.Store
