import DeviceAlerts.Proofs.Device.Typed
import DeviceAlerts.Proofs.Tag.Typed
import Mathlib.Data.List.Nodup

/-! Records in the order of their numbers. Both stores in memory give ascending numbers and put new
records at the end; changes and deletions keep the order. Devices have besides addresses of their
own. -/

namespace DeviceAlerts.Store

open DeviceAlerts.Time

/-! ### Sequences -/

theorem id_of_find? {α : Type} {id : α → Datum} {i : Int} {rows : List α} {r : α}
    (h : rows.find? (fun r => id r = .int i) = some r) : id r = .int i := by
  simpa using List.find?_some h

/-- Records in the order of their numbers, all of which come before a next number. -/
structure InSequence {α : Type} (id : α → Datum) (next : Int) (rows : List α) : Prop where
  given : ∀ r ∈ rows, ∃ i < next, id r = .int i
  ascending : rows.Pairwise fun a b => ∃ i j, id a = .int i ∧ id b = .int j ∧ i < j

namespace InSequence

variable {α : Type} {id : α → Datum} {next : Int} {rows others : List α}

theorem nil (id : α → Datum) (next : Int) : InSequence id next [] := ⟨nofun, .nil⟩

theorem append (h : InSequence id next rows) {r : α} (hid : id r = .int next) :
    InSequence id (next + 1) (rows ++ [r]) := by
  refine ⟨fun a ha => ?_, List.pairwise_append.mpr
    ⟨h.ascending, List.pairwise_singleton _ _, fun a ha b hb => ?_⟩⟩
  · rcases List.mem_append.mp ha with ha | ha
    · obtain ⟨i, hi, same⟩ := h.given a ha
      exact ⟨i, by omega, same⟩
    · obtain rfl := List.mem_singleton.mp ha
      exact ⟨next, by omega, hid⟩
  · obtain rfl := List.mem_singleton.mp hb
    obtain ⟨i, hi, same⟩ := h.given a ha
    exact ⟨i, next, same, hid, hi⟩

theorem sublist (h : InSequence id next rows) (part : others.Sublist rows) :
    InSequence id next others :=
  ⟨fun r hr => h.given r (part.subset hr), h.ascending.sublist part⟩

theorem map (h : InSequence id next rows) {g : α → α} (keeps : ∀ r, id (g r) = id r) :
    InSequence id next (rows.map g) := by
  refine ⟨List.forall_mem_map.mpr fun r hr => ?_, List.pairwise_map.mpr ?_⟩
  · rw [keeps]
    exact h.given r hr
  · simpa only [keeps] using h.ascending

theorem succ (h : InSequence id next rows) : InSequence id (next + 1) rows := by
  refine ⟨fun r hr => ?_, h.ascending⟩
  obtain ⟨i, hi, same⟩ := h.given r hr
  exact ⟨i, by omega, same⟩

theorem id_ne (h : InSequence id next rows) : rows.Pairwise fun a b => id a ≠ id b := by
  refine h.ascending.imp ?_
  rintro a b ⟨i, j, hi, hj, hlt⟩ same
  have := Datum.int.inj (hi.symm.trans (same.trans hj))
  omega

theorem eq_of_id (h : InSequence id next rows) {a b : α} (ha : a ∈ rows) (hb : b ∈ rows)
    (same : id a = id b) : a = b :=
  List.inj_on_of_nodup_map (List.pairwise_map.mpr h.id_ne) ha hb same

end InSequence

/-! ### Devices -/

namespace Devices

/-- What is true of stored devices when what is handed in has the right types. -/
structure Sound (s : Devices) : Prop where
  sequence : InSequence Device.id s.nextId s.rows
  typed : ∀ d ∈ s.rows, d.Typed
  apart : s.rows.Pairwise fun a b => a.address ≠ b.address

variable {s : Devices} {now : Moment}

theorem sound_empty : empty.Sound := ⟨.nil _ _, nofun, .nil⟩

theorem Sound.eq_of_address (h : s.Sound) {a b : Device} (ha : a ∈ s.rows) (hb : b ∈ s.rows)
    (same : a.address = b.address) : a = b :=
  List.inj_on_of_nodup_map (List.pairwise_map.mpr h.apart) ha hb same

theorem addressTaken_iff {a : String} {except : Option Datum} :
    s.addressTaken (.text a) except = true ↔
      ∃ d ∈ s.rows, d.address = .text a ∧ some d.id ≠ except := by
  simp [addressTaken]

/-- What may come of a new device. -/
inductive Created (s : Devices) (now : Moment) (draft : DeviceDraft) :
    Except Failure Device × Devices → Prop
  | taken {other : Device} (stored : other ∈ s.rows) (same : other.address = draft.address) :
    Created s now draft (.error (.addressTaken draft.address), s)
  | free {people : List Int} (responsible : draft.responsible = .list (people.map .int))
    (apart : ∀ d ∈ s.rows, d.address ≠ draft.address) :
    Created s now draft (.ok (draft.stored people s.nextId now),
      ⟨s.nextId + 1, s.rows ++ [draft.stored people s.nextId now]⟩)

theorem created_create {draft : DeviceDraft} (typed : draft.Typed) :
    s.Created now draft (s.create now draft) := by
  obtain ⟨a, ha⟩ := typed.address
  unfold create
  split
  · next taken =>
    rw [ha] at taken
    obtain ⟨d, stored, same, -⟩ := addressTaken_iff.mp taken
    exact .taken stored (same.trans ha.symm)
  · next free =>
    obtain ⟨people, responsible⟩ := typed.responsible
    rw [responsible, Datum.readIntegers_list]
    refine .free responsible fun d stored same => free ?_
    rw [ha]
    exact addressTaken_iff.mpr ⟨d, stored, same.trans ha, nofun⟩

/-- What may come of changes to a device; an address is taken when it belongs to another one. -/
inductive Updated (s : Devices) (now : Moment) (i : Int) (changes : List DeviceChange) :
    Except Failure (Option Device) × Devices → Prop
  | missing (absent : s.find? i = none) : Updated s now i changes (.ok none, s)
  | taken {old other : Device} (found : s.find? i = some old) (stored : other ∈ s.rows)
    (different : other.id ≠ old.id)
    (same : other.address = (DeviceChange.revised now changes old).address)
    (given : changes.filterMap DeviceChange.address? =
      [(DeviceChange.revised now changes old).address]) :
    Updated s now i changes
      (.error (.addressTaken (DeviceChange.revised now changes old).address), s)
  | free {old : Device} (found : s.find? i = some old)
    (apart : ∀ d ∈ s.rows, d.id ≠ old.id →
      d.address ≠ (DeviceChange.revised now changes old).address) :
    Updated s now i changes (.ok (some (DeviceChange.revised now changes old)),
      s.replace (DeviceChange.revised now changes old))

theorem update_int (i : Int) (changes : List DeviceChange) : s.update now (.int i) changes =
    if !(changes.filterMap DeviceChange.unknown?).isEmpty then
      (.error (.unknownFields ((changes.filterMap DeviceChange.unknown?).mergeSort (· ≤ ·))), s)
    else
      match s.find? i with
      | none => (.ok none, s)
      | some old =>
        match s.revise now old changes with
        | .error failure => (.error failure, s)
        | .ok new => (.ok (some new), s.replace new) := rfl

theorem updated_update (h : s.Sound) {changes : List DeviceChange}
    (typed : ∀ c ∈ changes, c.Typed)
    (once : (changes.filterMap DeviceChange.address?).length ≤ 1) (i : Int) :
    s.Updated now i changes (s.update now (.int i) changes) := by
  have known : changes.filterMap DeviceChange.unknown? = [] := by
    refine List.filterMap_eq_nil_iff.mpr fun c hc => ?_
    cases c with
    | unknown field => exact (typed _ hc).elim
    | _ => rfl
  rw [update_int, known, if_neg (by decide)]
  cases hfound : s.find? i with
  | none => exact .missing hfound
  | some old =>
    have stored := List.mem_of_find?_eq_some hfound
    have haddress : (DeviceChange.revised now changes old).address =
      (changes.filterMap DeviceChange.address?).getLast?.getD old.address :=
      DeviceChange.address_applyAll old changes
    simp only [revise, DeviceChange.changeAll_typed typed]
    match hgiven : changes.filterMap DeviceChange.address?, once with
    | [], _ =>
      rw [hgiven] at haddress
      refine .free hfound fun d hd different same => different ?_
      rw [h.eq_of_address hd stored (same.trans haddress)]
    | [a], _ =>
      rw [hgiven] at haddress
      obtain ⟨c, hc, hca⟩ : ∃ c ∈ changes, DeviceChange.address? c = some a :=
        List.mem_filterMap.mp (hgiven ▸ List.mem_singleton_self a)
      obtain ⟨text, rfl⟩ : ∃ text : String, a = .text text := by
        cases c with
        | address given => exact Option.some.inj hca ▸ typed _ hc
        | _ => cases hca
      rw [List.find?_singleton]
      cases taken : s.addressTaken (.text text) (some old.id) with
      | true =>
        obtain ⟨other, hother, same, different⟩ := addressTaken_iff.mp taken
        have hrevised : (DeviceChange.revised now changes old).address = .text text := haddress
        rw [← hrevised] at hgiven same
        have refused := Updated.taken hfound hother (fun hid => different (congrArg some hid)) same
          hgiven
        rwa [hrevised] at refused
      | false =>
        refine .free hfound fun d hd different same => ?_
        have : s.addressTaken (.text text) (some old.id) = true :=
          addressTaken_iff.mpr
            ⟨d, hd, same.trans haddress, fun hid => different (Option.some.inj hid)⟩
        rw [taken] at this
        cases this

/-! ### What calls keep -/

theorem Created.sound {draft : DeviceDraft} {r : Except Failure Device × Devices}
    (created : s.Created now draft r) (h : s.Sound) (typed : draft.Typed) : r.2.Sound := by
  cases created with
  | taken _ _ => exact h
  | free responsible apart =>
    refine ⟨h.sequence.append rfl, fun d hd => ?_, List.pairwise_append.mpr
      ⟨h.apart, List.pairwise_singleton _ _, fun d hd e he => ?_⟩⟩
    · rcases List.mem_append.mp hd with hd | hd
      · exact h.typed d hd
      · obtain rfl := List.mem_singleton.mp hd
        exact typed.stored _ _ _
    · obtain rfl := List.mem_singleton.mp he
      exact apart d hd

theorem Updated.sound {i : Int} {changes : List DeviceChange}
    {r : Except Failure (Option Device) × Devices} (updated : s.Updated now i changes r)
    (h : s.Sound) (typed : ∀ c ∈ changes, c.Typed) : r.2.Sound := by
  cases updated with
  | missing _ | taken _ _ _ _ _ => exact h
  | @free old found apart =>
    have stored := List.mem_of_find?_eq_some found
    have hid : (DeviceChange.revised now changes old).id = old.id :=
      DeviceChange.id_applyAll old changes
    refine ⟨h.sequence.map fun d => ?_, List.forall_mem_map.mpr fun d hd => ?_,
      List.pairwise_map.mpr ?_⟩
    · split
      · next same => exact same.symm
      · rfl
    · split
      · exact (h.typed old stored).revised typed now
      · exact h.typed d hd
    · refine (h.sequence.id_ne.and h.apart).imp_of_mem fun {a b} ha hb hne => ?_
      rw [hid]
      split
      · next hold =>
        rw [if_neg fun same => hne.1 (hold.trans same.symm)]
        exact (apart b hb fun same => hne.1 (hold.trans same.symm)).symm
      · next different =>
        split
        · exact apart a ha different
        · exact hne.2

theorem Sound.delete (h : s.Sound) (i : Int) : (s.delete (.int i)).2.Sound :=
  ⟨h.sequence.sublist List.filter_sublist, fun d hd => h.typed d (List.mem_filter.mp hd).1,
    h.apart.sublist List.filter_sublist⟩

end Devices

/-! ### Tags -/

namespace Tags

/-- Tags of the right types in the order of their numbers. -/
structure Ordered (s : Tags) : Prop where
  sequence : InSequence Tag.id s.nextId s.rows
  typed : ∀ t ∈ s.rows, t.Typed

variable {s : Tags} {now : Moment}

theorem ordered_empty : empty.Ordered := ⟨.nil _ _, nofun⟩

/-- The record that results from changes. -/
def changed (now : Moment) (changes : List TagChange) (t : Tag) : Tag :=
  { TagChange.applyAll t changes with updatedAt := .moment now }

/-- What may come of changes to a tag. -/
inductive Updated (s : Tags) (now : Moment) (i : Int) (changes : List TagChange) :
    Except Failure (Option Tag) × Tags → Prop
  | missing (absent : s.find? i = none) : Updated s now i changes (.ok none, s)
  | free {old : Tag} (found : s.find? i = some old) :
    Updated s now i changes (.ok (some (changed now changes old)),
      s.replace (changed now changes old))

theorem updated_update {changes : List TagChange} (known : ∀ c ∈ changes, c.unknown? = none)
    (i : Int) : s.Updated now i changes (s.update now (.int i) changes) := by
  have number : (Datum.int i).readInteger = .ok i := rfl
  simp only [update, List.filterMap_eq_nil_iff.mpr known, number]
  cases hfound : s.find? i with
  | none => exact .missing hfound
  | some old => exact .free hfound

namespace Ordered

theorem sound (h : s.Ordered) : s.Sound := ⟨⟨h.sequence.given, h.sequence.id_ne⟩, h.typed⟩

theorem create (h : s.Ordered) (now : Moment) {draft : TagDraft} (typed : draft.Typed) :
    (s.create now draft).2.Ordered :=
  ⟨h.sequence.append rfl, (h.sound.create now typed).typed⟩

theorem delete (h : s.Ordered) (i : Int) : (s.delete (.int i)).2.Ordered :=
  ⟨h.sequence.sublist List.filter_sublist, fun t ht => h.typed t (List.mem_filter.mp ht).1⟩

end Ordered

theorem typed_changed {t : Tag} (h : t.Typed) {changes : List TagChange}
    (typed : ∀ c ∈ changes, c.Typed) : (changed now changes t).Typed :=
  { h.applyAll typed with updatedAt := ⟨now, rfl⟩ }

theorem Updated.ordered {i : Int} {changes : List TagChange}
    {r : Except Failure (Option Tag) × Tags} (updated : s.Updated now i changes r)
    (h : s.Ordered) (typed : ∀ c ∈ changes, c.Typed) : r.2.Ordered := by
  cases updated with
  | missing _ => exact h
  | @free old found =>
    refine ⟨h.sequence.map fun t => ?_, List.forall_mem_map.mpr fun t ht => ?_⟩
    · split
      · next same => exact same.symm
      · rfl
    · split
      · exact typed_changed (h.typed old (List.mem_of_find?_eq_some found)) typed
      · exact h.typed t ht

end Tags

end DeviceAlerts.Store
