import DeviceAlerts.Proofs.Form.Patches
import DeviceAlerts.Proofs.Store.Addresses

/-! Patches of stored records. A record that is patched stands in its place again, and nothing else
is touched. A device may be refused an address that another device has; since none of the others is
touched, what the second of two patches may take could have been taken at once. -/

namespace DeviceAlerts

open DeviceAlerts.Form DeviceAlerts.Text DeviceAlerts.Time

namespace Store

/-! ### Records in their places -/

section

variable {α : Type} {id : α → Datum} {next : Int} {rows : List α}

/-- The records with a new one in the place of the one with its number. -/
def place (id : α → Datum) (new : α) (rows : List α) : List α :=
  rows.map fun r => if id r = id new then new else r

theorem place_place {a b : α} (same : id a = id b) (rows : List α) :
    place id b (place id a rows) = place id b rows := by
  rw [place, place, List.map_map]
  refine List.map_congr_left fun r _ => ?_
  by_cases hr : id r = id b
  · simp [same, hr]
  · simp [same, hr]

theorem InSequence.place_self (h : InSequence id next rows) {r : α} (stored : r ∈ rows) :
    place id r rows = rows := by
  refine (List.map_congr_left fun a ha => ?_).trans (List.map_id rows)
  split
  · next same => exact (h.eq_of_id ha stored same).symm
  · rfl

theorem mem_place {old new : α} (stored : old ∈ rows) (same : id new = id old) :
    new ∈ place id new rows :=
  List.mem_map.mpr ⟨old, stored, if_pos same.symm⟩

theorem mem_place_other {new r : α} (other : id r ≠ id new) :
    r ∈ place id new rows ↔ r ∈ rows := by
  refine ⟨fun h => ?_, fun h => List.mem_map.mpr ⟨r, h, if_neg other⟩⟩
  obtain ⟨a, ha, rfl⟩ := List.mem_map.mp h
  split at other
  · exact absurd rfl other
  · next hne => rwa [if_neg hne]

end

/-! ### Tags -/

namespace Tags

variable {s : Tags} {t : Tag} {p : TagPatch}

theorem replace_replace {u v : Tag} (same : u.id = v.id) :
    (s.replace u).replace v = s.replace v :=
  congrArg (Tags.mk s.nextId) (place_place same s.rows)

theorem replace_self (h : InSequence Tag.id s.nextId s.rows) (stored : t ∈ s.rows) :
    s.replace t = s :=
  congrArg (Tags.mk s.nextId) (h.place_self stored)

theorem find?_stored (h : InSequence Tag.id s.nextId s.rows) (stored : t ∈ s.rows) {i : Int}
    (number : t.id = .int i) : s.find? i = some t :=
  h.find?_eq_some_iff.mpr ⟨stored, number⟩

/-- A patch that gives something puts what becomes of the tag in its place. -/
theorem update_patch (h : InSequence Tag.id s.nextId s.rows) (stored : t ∈ s.rows) {i : Int}
    (number : t.id = .int i) (given : p.changes.isEmpty = false) (now : Moment) :
    s.update now (.int i) p.changes =
      (.ok (some (p.outcome now t)), s.replace (p.outcome now t)) := by
  have known : ∀ c ∈ p.changes, c.unknown? = none := by
    simp only [TagPatch.changes, List.forall_mem_append]
    refine ⟨⟨⟨⟨⟨⟨⟨?_, ?_⟩, ?_⟩, ?_⟩, ?_⟩, ?_⟩, ?_⟩, ?_⟩ <;> simp [TagChange.unknown?]
  have hfound := find?_stored h stored number
  have hchanged : changed now p.changes t = p.outcome now t := by
    rw [changed, p.applyAll_changes, TagPatch.outcome, given]
    rfl
  have hupdated : s.Updated now i p.changes _ := s.updated_update known i
  generalize s.update now (.int i) p.changes = result at hupdated ⊢
  cases hupdated with
  | missing absent =>
    rw [hfound] at absent
    cases absent
  | free found =>
    cases hfound.symm.trans found
    rw [hchanged]

end Tags

/-! ### Devices -/

namespace Devices

variable {s : Devices} {d : Device}

theorem replace_replace {a b : Device} (same : a.id = b.id) :
    (s.replace a).replace b = s.replace b :=
  congrArg (Devices.mk s.nextId) (place_place same s.rows)

theorem replace_self (h : InSequence Device.id s.nextId s.rows) (stored : d ∈ s.rows) :
    s.replace d = s :=
  congrArg (Devices.mk s.nextId) (h.place_self stored)

theorem find?_stored (h : InSequence Device.id s.nextId s.rows) (stored : d ∈ s.rows) {i : Int}
    (number : d.id = .int i) : s.find? i = some d :=
  h.find?_eq_some_iff.mpr ⟨stored, number⟩

/-- Whether others have an address does not depend on what becomes of the device itself. -/
theorem addressTaken_replace (s : Devices) (d : Device) (a : Datum) :
    (s.replace d).addressTaken a (some d.id) = s.addressTaken a (some d.id) := by
  have others (r : Device) (other : some r.id ≠ some d.id) :
      r ∈ (s.replace d).rows ↔ r ∈ s.rows :=
    mem_place_other fun same => other (congrArg some same)
  rw [Bool.eq_iff_iff, addressTaken_eq_true, addressTaken_eq_true]
  constructor
  · rintro ⟨r, hr, same, other⟩
    exact ⟨r, (others r other).mp hr, same, other⟩
  · rintro ⟨r, hr, same, other⟩
    exact ⟨r, (others r other).mpr hr, same, other⟩

end Devices

end Store

namespace Form

/-! ### What is asked of patches -/

open Store

theorem orElse_eq_some {α : Type} {last first : Option α} {a : α}
    (h : (last <|> first) = some a) : last = some a ∨ first = some a := by
  cases last with
  | none => exact .inr h
  | some b => exact .inl h

/-- A text that need not be given is not blank. -/
theorem not_any_blank {o : Option String} :
    (¬ (o.any fun s => trim s = "") = true) ↔ ∀ s, o = some s → trim s ≠ "" := by
  cases o <;> simp

/-- The name is not blank. -/
def TagPatch.Admitted (p : TagPatch) : Prop := ∀ n, p.name = some n → trim n ≠ ""

theorem TagPatch.Admitted.overriddenBy {p q : TagPatch} (hp : p.Admitted) (hq : q.Admitted) :
    (p.overriddenBy q).Admitted :=
  fun n hn => (orElse_eq_some hn).elim (hq n) (hp n)

namespace DevicePatch

variable {s : Devices} {d : Device} {p q : DevicePatch} {now : Moment}

theorem typed_changes (p : DevicePatch) : ∀ c ∈ p.changes, c.Typed := by
  simp only [changes, List.forall_mem_append]
  refine ⟨⟨⟨?_, ?_⟩, ?_⟩, ?_⟩ <;> simp [DeviceChange.Typed]

theorem addresses_changes (p : DevicePatch) : p.changes.filterMap DeviceChange.address? =
    (p.address.map fun a => .text (trim a)).toList := by
  obtain ⟨name, type, address, responsible⟩ := p
  cases name <;> cases type <;> cases address <;> cases responsible <;> rfl

/-- Name and address are not blank, and the address is not that of another device. -/
structure Admitted (p : DevicePatch) (s : Devices) (d : Device) : Prop where
  name : ∀ n, p.name = some n → trim n ≠ ""
  address : ∀ a, p.address = some a → trim a ≠ ""
  free : ∀ a, p.address = some a → s.addressTaken (.text (trim a)) (some d.id) = false

theorem isEmpty_changes {a : String} (h : p.address = some a) : p.changes.isEmpty = false := by
  refine Bool.eq_false_iff.mpr fun empty => ?_
  have addresses := p.addresses_changes
  rw [List.isEmpty_iff.mp empty, h] at addresses
  cases addresses

theorem unknown_changes (p : DevicePatch) : p.changes.filterMap DeviceChange.unknown? = [] := by
  refine List.filterMap_eq_nil_iff.mpr fun c hc => ?_
  cases c with
  | unknown field => exact (p.typed_changes _ hc).elim
  | _ => rfl

/-- A patch that gives something and is admitted puts what becomes of the device in its place. -/
theorem Admitted.update (admitted : p.Admitted s d) (h : s.Apart) (stored : d ∈ s.rows) {i : Int}
    (number : d.id = .int i) (given : p.changes.isEmpty = false) (now : Moment) :
    s.update now (.int i) p.changes =
      (.ok (some (p.outcome now d)), s.replace (p.outcome now d)) := by
  have free : ((p.address.map fun a => Datum.text (trim a)).toList.find? fun a =>
      s.addressTaken a (some d.id)) = none := by
    refine List.find?_eq_none.mpr fun a ha => ?_
    obtain ⟨text, htext, rfl⟩ := Option.map_eq_some_iff.mp (Option.mem_toList.mp ha)
    rw [admitted.free text htext]
    decide
  have hrevised : s.revise now d p.changes = .ok (p.outcome now d) := by
    rw [Devices.revise, p.addresses_changes, free,
      DeviceChange.changeAll_typed p.typed_changes, p.applyAll_changes, outcome, given]
    rfl
  rw [h.update_stored p.unknown_changes rfl stored number, hrevised]

theorem free_of_update (h : s.Apart) (stored : d ∈ s.rows) {i : Int} (number : d.id = .int i)
    {new : Device} (updated : (s.update now (.int i) p.changes).1 = .ok (some new)) :
    ∀ a, p.address = some a → s.addressTaken (.text (trim a)) (some d.id) = false := by
  intro a ha
  rw [h.update_stored p.unknown_changes rfl stored number] at updated
  cases hrevised : s.revise now d p.changes with
  | error failure =>
    rw [hrevised] at updated
    cases updated
  | ok changed =>
    obtain ⟨-, -, -, free⟩ := Devices.of_revise hrevised
    refine free _ ?_
    rw [p.addresses_changes, ha]
    exact List.mem_singleton_self _

/-- Whatever two patches in a row may change may be changed at once. -/
theorem Admitted.overriddenBy (hp : p.Admitted s d)
    (hq : q.Admitted (s.replace (p.outcome now d)) (p.outcome now d)) :
    (p.overriddenBy q).Admitted s d := by
  refine ⟨fun n hn => ?_, fun a ha => ?_, fun a ha => ?_⟩
  · exact (orElse_eq_some hn).elim (hq.name n) (hp.name n)
  · exact (orElse_eq_some ha).elim (hq.address a) (hp.address a)
  · refine (orElse_eq_some ha).elim (fun h => ?_) (hp.free a)
    have free := hq.free a h
    rwa [Devices.addressTaken_replace, id_outcome] at free

end DevicePatch

end Form

end DeviceAlerts
