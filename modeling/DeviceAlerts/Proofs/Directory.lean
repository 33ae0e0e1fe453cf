import DeviceAlerts.Directory
import DeviceAlerts.Proofs.Store.Creation
import DeviceAlerts.Proofs.Table

/-! Directories of devices whose numbers and addresses are apart. The two tables are then filled
with the same devices, each under a key of its own, and what is found by address is found again by
number. -/

namespace DeviceAlerts

open DeviceAlerts.Store DeviceAlerts.Time

/-! ### Tables under keys that are apart -/

namespace Table

variable {κ α : Type} [BEq κ] {key : α → κ}

theorem set_of_absent {t : Table κ α} {k : κ} (absent : ∀ row ∈ t, (row.1 == k) = false) (a : α) :
    t.set k a = t ++ [(k, a)] := by
  induction t with
  | nil => rfl
  | cons row rest ih =>
    obtain ⟨hrow, hrest⟩ := List.forall_mem_cons.mp absent
    rw [set, hrow, if_neg (by decide), ih hrest, List.cons_append]

/-- Values that are set one after the other under keys that are apart stand in their order. -/
theorem foldl_set {items : List α} (apart : items.Pairwise fun a b => (key a == key b) = false) :
    items.foldl (fun (t : Table κ α) a => t.set (key a) a) [] = items.map fun a => (key a, a) := by
  have general (t : Table κ α) (new : ∀ row ∈ t, ∀ a ∈ items, (row.1 == key a) = false) :
      items.foldl (fun t a => t.set (key a) a) t = t ++ items.map fun a => (key a, a) := by
    -- on the items, as the table in front of them grows
    induction items generalizing t with
    | nil => exact (List.append_nil t).symm
    | cons a rest ih =>
      obtain ⟨hfirst, hrest⟩ := List.pairwise_cons.mp apart
      have hset := set_of_absent (fun row hrow => new row hrow a List.mem_cons_self) a
      rw [List.foldl_cons, hset, ih hrest, List.append_assoc, List.map_cons]
      · rfl
      · intro row hrow b hb
        rcases List.mem_append.mp hrow with hrow | hrow
        · exact new row hrow b (List.mem_cons_of_mem a hb)
        · obtain rfl := List.mem_singleton.mp hrow
          exact hfirst b hb
  exact general [] nofun

theorem get?_map_key {items : List α} {k : κ} :
    Table.get? (items.map fun a => (key a, a)) k = items.find? fun a => key a == k := by
  rw [get?, List.find?_map, Option.map_map]
  exact Option.map_id'

variable [PartialEquivBEq κ]

theorem get?_map_key_eq_some_iff {items : List α}
    (apart : items.Pairwise fun a b => (key a == key b) = false) {k : κ} {a : α} :
    Table.get? (items.map fun a => (key a, a)) k = some a ↔ a ∈ items ∧ (key a == k) = true := by
  rw [get?_map_key]
  constructor
  · intro hfind
    exact ⟨List.mem_of_find?_eq_some hfind, by simpa using List.find?_some hfind⟩
  · rintro ⟨member, found⟩
    induction items with
    | nil => cases member
    | cons b rest ih =>
      obtain ⟨hfirst, hrest⟩ := List.pairwise_cons.mp apart
      rw [List.find?_cons]
      rcases List.mem_cons.mp member with rfl | member
      · rw [found]
      · have other : (key b == k) = false := by
          refine Bool.eq_false_iff.mpr fun same => ?_
          have := PartialEquivBEq.trans same (PartialEquivBEq.symm found)
          rw [hfirst a member] at this
          cases this
        rw [other]
        exact ih hrest member

end Table

/-! ### Directories -/

namespace Directory

/-- The directory holds just these devices, each under its number and under its address. -/
structure Lists (directory : Directory) (devices : List Device) : Prop where
  byId : directory.byId = devices.map fun d => (d.id, d)
  byAddress : directory.byAddress = devices.map fun d => (d.address, d)
  ids : devices.Pairwise fun a b => (a.id == b.id) = false
  addresses : devices.Pairwise fun a b => (a.address == b.address) = false

theorem lists_empty : empty.Lists [] := ⟨rfl, rfl, .nil, .nil⟩

theorem lists_table {s : Devices} (h : s.Apart) (now : Moment) :
    (table s.rows now).Lists s.rows := by
  have ids : s.rows.Pairwise fun a b => (a.id == b.id) = false :=
    h.sequence.ascending.imp fun precedes => Datum.Precedes.not_beq precedes
  exact ⟨Table.foldl_set ids, Table.foldl_set h.addresses, ids, h.addresses⟩

namespace Lists

variable {directory : Directory} {devices : List Device} (h : directory.Lists devices)

include h

theorem values_byId : directory.byId.values = devices := by
  rw [h.byId, Table.values, List.map_map]
  exact List.map_id _

theorem values_byAddress : directory.byAddress.values = devices := by
  rw [h.byAddress, Table.values, List.map_map]
  exact List.map_id _

theorem resolve?_eq_some_iff {address id : Datum} : directory.resolve? address = some id ↔
    ∃ d ∈ devices, (d.address == address) = true ∧ d.id = id := by
  have found (d : Device) : directory.byAddress.get? address = some d ↔
      d ∈ devices ∧ (d.address == address) = true := by
    rw [h.byAddress]
    exact Table.get?_map_key_eq_some_iff h.addresses
  simp only [resolve?, Option.map_eq_some_iff, found, and_assoc]

theorem find?_eq_some_iff {id : Datum} {d : Device} :
    directory.find? id = some d ↔ d ∈ devices ∧ (d.id == id) = true := by
  rw [find?, h.byId]
  exact Table.get?_map_key_eq_some_iff h.ids

theorem describe_eq {id : Datum} {d : Device} (stored : d ∈ devices) (same : (d.id == id) = true) :
    directory.describe id = d := by
  rw [describe, h.find?_eq_some_iff.mpr ⟨stored, same⟩]
  rfl

theorem describe_unknown {id : Datum} (none : ∀ d ∈ devices, (d.id == id) = false) :
    directory.describe id = Device.unknown := by
  rw [describe]
  cases hfind : directory.find? id with
  | none => rfl
  | some d =>
    obtain ⟨stored, same⟩ := h.find?_eq_some_iff.mp hfind
    rw [none d stored] at same
    cases same

end Lists

end Directory

end DeviceAlerts
