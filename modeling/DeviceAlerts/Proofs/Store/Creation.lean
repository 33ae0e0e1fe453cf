import DeviceAlerts.Notice
import DeviceAlerts.Proofs.Store.Addresses

/-! The order of creation. Both stores in memory number their records upwards and never go back, so
a number stands for one record for good, and the records stay in the order in which they were
created. Of a record only its stamp matters here: its number and the time of its creation, neither
of which a change can move. -/

namespace DeviceAlerts

open DeviceAlerts.Time

/-- What a record keeps for as long as it is stored. -/
structure Stamp where
  id : Datum
  createdAt : Datum
  deriving DecidableEq

def Device.stamp (d : Device) : Stamp := ⟨d.id, d.createdAt⟩

def Tag.stamp (t : Tag) : Stamp := ⟨t.id, t.createdAt⟩

/-- Both are integers, and the first is smaller. -/
def Datum.Precedes (a b : Datum) : Prop := ∃ i j : Int, a = .int i ∧ b = .int j ∧ i < j

theorem Datum.Precedes.not_beq {a b : Datum} (h : a.Precedes b) : (a == b) = false := by
  obtain ⟨i, j, rfl, rfl, hlt⟩ := h
  refine Bool.eq_false_iff.mpr fun same => ?_
  have : i = j := int_beq_int.mp same
  omega

theorem Datum.Precedes.asymm {a b : Datum} (h : a.Precedes b) : ¬ b.Precedes a := by
  obtain ⟨i, j, rfl, rfl, hlt⟩ := h
  rintro ⟨k, l, hk, hl, hgt⟩
  have := int.inj hk
  have := int.inj hl
  omega

namespace Store

/-! ### Sequences of stamps -/

namespace InSequence

variable {α β : Type} {id : α → Datum} {next later : Int} {rows : List α}

theorem mono (h : InSequence id next rows) (le : next ≤ later) : InSequence id later rows := by
  refine ⟨fun r hr => ?_, h.ascending⟩
  obtain ⟨i, hi, same⟩ := h.given r hr
  exact ⟨i, by omega, same⟩

/-- The numbers of records are those of what is kept of them. -/
theorem image {g : α → β} {id' : β → Datum} (keeps : ∀ r, id' (g r) = id r) :
    InSequence id' next (rows.map g) ↔ InSequence id next rows := by
  constructor
  · intro h
    have given := List.forall_mem_map.mp h.given
    have ascending := List.pairwise_map.mp h.ascending
    simp only [keeps] at given ascending
    exact ⟨given, ascending⟩
  · intro h
    refine ⟨List.forall_mem_map.mpr ?_, List.pairwise_map.mpr ?_⟩
    · simpa only [keeps] using h.given
    · simpa only [keeps] using h.ascending

/-- What replaces a record under its number, with the same of it kept, leaves the order alone. -/
theorem map_replace (h : InSequence id next rows) {g : α → β} {old new : α}
    (stored : old ∈ rows) (number : id new = id old) (kept : g new = g old) :
    (rows.map fun r => if id r = id new then new else r).map g = rows.map g := by
  rw [List.map_map]
  refine List.map_congr_left fun r hr => ?_
  show g (if id r = id new then new else r) = g r
  split
  · next same =>
    rw [h.eq_of_id hr stored (same.trans number), kept]
  · rfl

end InSequence

/-- What a call can do to the stamps: none but a new record comes to them, and it comes last and
takes the next number. -/
inductive Progress (next : Int) (stamps : List Stamp) : Int → List Stamp → Prop
  | thinned {later : Int} {rest : List Stamp} (le : next ≤ later) (part : rest.Sublist stamps) :
    Progress next stamps later rest
  | added {stamp : Stamp} (number : stamp.id = .int next) :
    Progress next stamps (next + 1) (stamps ++ [stamp])

namespace Progress

variable {next later : Int} {stamps rest : List Stamp}

theorem le (h : Progress next stamps later rest) : next ≤ later := by
  cases h with
  | thinned le part => exact le
  | added number => omega

theorem inSequence (h : Progress next stamps later rest)
    (before : InSequence Stamp.id next stamps) : InSequence Stamp.id later rest := by
  cases h with
  | thinned le part => exact (before.sublist part).mono le
  | added number => exact before.append number

end Progress

/-! ### The two stores -/

/-- The stamps of the records of a part, in the order in which they are listed. -/
def stamps (s : Store) : Part → List Stamp
  | .devices => s.devices.rows.map Device.stamp
  | .rules => s.tags.rows.map Tag.stamp

/-- The number that the next record of a part takes. -/
def counter (s : Store) : Part → Int
  | .devices => s.devices.nextId
  | .rules => s.tags.nextId

theorem Devices.Moves.progress {s s' : Devices} (moves : s.Moves s')
    (h : InSequence Device.id s.nextId s.rows) :
    Progress s.nextId (s.rows.map Device.stamp) s'.nextId (s'.rows.map Device.stamp) := by
  cases moves with
  | stays => exact .thinned (Int.le_refl _) (List.Sublist.refl _)
  | skips => exact .thinned (Int.le_add_one (Int.le_refl _)) (List.Sublist.refl _)
  | adds number free =>
    rw [List.map_append]
    exact .added number
  | replaces stored number created free =>
    refine .thinned (Int.le_refl _) ?_
    rw [Devices.replace, h.map_replace stored number (by rw [Device.stamp, number, created]; rfl)]
  | removes i => exact .thinned (Int.le_refl _) (List.filter_sublist.map _)

/-- A number that can be read leads to the record under it, if there is one. -/
theorem get_eq_ok {α : Type} {find : Int → Option α} {id : Datum} {found : Option α}
    (h : id.readInteger.map find = .ok found) : ∃ i, id.readInteger = .ok i ∧ found = find i := by
  cases hid : id.readInteger with
  | error failure =>
    rw [hid] at h
    cases h
  | ok i =>
    rw [hid] at h
    cases h
    exact ⟨i, rfl, rfl⟩

namespace Devices

variable {s : Devices}

theorem create_eq_ok {now : Moment} {draft : DeviceDraft} {new : Device}
    (h : (s.create now draft).1 = .ok new) : new.id = .int s.nextId ∧
      (s.create now draft).2 = ⟨s.nextId + 1, s.rows ++ [new]⟩ := by
  rcases s.create_cases now draft with ⟨_, same⟩ | ⟨_, same⟩ | ⟨people, -, same⟩ <;>
    rw [same] at h ⊢ <;> cases h
  exact ⟨rfl, rfl⟩

theorem mem_of_get {id : Datum} {d : Device} (h : s.get id = .ok (some d)) : d ∈ s.rows := by
  obtain ⟨i, -, hfind⟩ := get_eq_ok h
  exact List.mem_of_find?_eq_some hfind.symm

theorem mem_of_update {now : Moment} {id : Datum} {changes : List DeviceChange} {new : Device}
    (h : (s.update now id changes).1 = .ok (some new)) :
    new ∈ (s.update now id changes).2.rows := by
  rcases s.update_cases now id changes with ⟨-, none⟩ | ⟨old, changed, stored, revised, updated⟩
  · exact absurd h (none new)
  · rw [updated] at h ⊢
    cases h
    have number : old.id = new.id := (revise_eq_ok revised).1.symm
    exact List.mem_map.mpr ⟨old, stored, if_pos number⟩

theorem stamps_update (h : InSequence Device.id s.nextId s.rows) (now : Moment) (id : Datum)
    (changes : List DeviceChange) :
    (s.update now id changes).2.rows.map Device.stamp = s.rows.map Device.stamp := by
  rcases s.update_cases now id changes with ⟨same, -⟩ | ⟨old, new, stored, revised, updated⟩
  · rw [same]
  · obtain ⟨number, created, -⟩ := revise_eq_ok revised
    rw [updated]
    exact h.map_replace stored number (congrArg₂ Stamp.mk number created)

end Devices

namespace Tags

variable {s : Tags}

theorem stamp_applyAll (t : Tag) (changes : List TagChange) :
    (TagChange.applyAll t changes).stamp = t.stamp := by
  induction changes generalizing t with
  | nil => rfl
  | cons change rest ih =>
    have hfirst : (change.apply t).stamp = t.stamp := by cases change <;> rfl
    exact (ih (change.apply t)).trans hfirst

/-- An update that changes anything puts a stored tag, as changed, in its place. -/
theorem update_cases (s : Tags) (now : Moment) (id : Datum) (changes : List TagChange) :
    (s.update now id changes).2 = s ∧ (∀ new, (s.update now id changes).1 ≠ .ok (some new)) ∨
      ∃ old ∈ s.rows, s.update now id changes =
        (.ok (some (changed now changes old)), s.replace (changed now changes old)) := by
  simp only [update]
  split
  · exact .inl ⟨rfl, fun new h => by cases h⟩
  · cases id.readInteger with
    | error failure => exact .inl ⟨rfl, fun new h => by cases h⟩
    | ok i =>
      cases hfind : s.find? i with
      | none =>
        simp only [hfind]
        exact .inl ⟨trivial, fun new h => by cases h⟩
      | some old =>
        simp only [hfind]
        exact .inr ⟨old, List.mem_of_find?_eq_some hfind, rfl⟩

theorem mem_of_get {id : Datum} {t : Tag} (h : s.get id = .ok (some t)) : t ∈ s.rows := by
  obtain ⟨i, -, hfind⟩ := get_eq_ok h
  exact List.mem_of_find?_eq_some hfind.symm

theorem mem_of_update {now : Moment} {id : Datum} {changes : List TagChange} {new : Tag}
    (h : (s.update now id changes).1 = .ok (some new)) :
    new ∈ (s.update now id changes).2.rows := by
  rcases s.update_cases now id changes with ⟨-, none⟩ | ⟨old, stored, updated⟩
  · exact absurd h (none new)
  · rw [updated] at h ⊢
    cases h
    exact List.mem_map.mpr ⟨old, stored, if_pos (id_applyAll old changes).symm⟩

theorem stamps_update (h : InSequence Tag.id s.nextId s.rows) (now : Moment) (id : Datum)
    (changes : List TagChange) :
    (s.update now id changes).2.rows.map Tag.stamp = s.rows.map Tag.stamp := by
  rcases s.update_cases now id changes with ⟨same, -⟩ | ⟨old, stored, updated⟩
  · rw [same]
  · rw [updated]
    exact h.map_replace stored (id_applyAll old changes) (stamp_applyAll old changes)

theorem nextId_update (now : Moment) (id : Datum) (changes : List TagChange) :
    (s.update now id changes).2.nextId = s.nextId := by
  rcases s.update_cases now id changes with ⟨same, -⟩ | ⟨old, stored, updated⟩
  · rw [same]
  · rw [updated]
    rfl

end Tags

/-! ### Calls -/

/-- In both parts the records stand in the order of their numbers. -/
def Ordered (s : Store) : Prop := ∀ p, InSequence Stamp.id (s.counter p) (s.stamps p)

theorem ordered_empty : empty.Ordered := by
  intro p
  cases p <;> exact .nil _ _

theorem Ordered.devices {s : Store} (h : s.Ordered) :
    InSequence Device.id s.devices.nextId s.devices.rows :=
  (InSequence.image (g := Device.stamp) fun _ => rfl).mp (h .devices)

theorem Ordered.tags {s : Store} (h : s.Ordered) :
    InSequence Tag.id s.tags.nextId s.tags.rows :=
  (InSequence.image (g := Tag.stamp) fun _ => rfl).mp (h .rules)

theorem progress_perform {s : Store} (h : s.Ordered) (now : Moment) (c : Call) (p : Part) :
    Progress (s.counter p) (s.stamps p) ((s.perform now c).2.counter p)
      ((s.perform now c).2.stamps p) := by
  cases p with
  | devices => exact (moves_perform s now c).progress h.devices
  | rules =>
    -- tags are simple enough to be followed without a relation of their own
    have stays : Progress (s.counter .rules) (s.stamps .rules) (s.counter .rules)
        (s.stamps .rules) := .thinned (Int.le_refl _) (List.Sublist.refl _)
    cases c with
    | createTag draft =>
      show Progress _ _ _ ((s.tags.rows ++ [_]).map Tag.stamp)
      rw [List.map_append]
      exact .added rfl
    | updateTag id changes =>
      show Progress _ _ (s.tags.update now id changes).2.nextId
        ((s.tags.update now id changes).2.rows.map Tag.stamp)
      rwa [Tags.nextId_update, Tags.stamps_update h.tags]
    | deleteTag id =>
      have kept : (s.tags.delete id).2.nextId = s.tags.nextId := by
        unfold Tags.delete
        cases id.readInteger <;> rfl
      exact .thinned (Int.le_of_eq kept.symm) ((s.tags.sublist_delete id).map _)
    | _ => exact stays

theorem Reachable.ordered {s : Store} (h : s.Reachable) : s.Ordered := by
  induction h with
  | empty => exact ordered_empty
  | perform _ now c ih => exact fun p => (progress_perform ih now c p).inSequence (ih p)

namespace Call

/-- The stamps of the records of a part that an answer shows. -/
def shows : (c : Call) → c.Answer → Part → List Stamp
  | listDevices, (found : List Device), .devices => found.map Device.stamp
  | getDevice _, (found : Option Device), .devices
  | updateDevice _ _, (found : Option Device), .devices => (found.map Device.stamp).toList
  | createDevice _, (new : Device), .devices => [new.stamp]
  | listTags, (found : List Tag), .rules => found.map Tag.stamp
  | getTag _, (found : Option Tag), .rules
  | updateTag _ _, (found : Option Tag), .rules => (found.map Tag.stamp).toList
  | createTag _, (new : Tag), .rules => [new.stamp]
  | _, _, _ => []

/-- The stamp of the record of a part that a call has created. -/
def creates : (c : Call) → c.Answer → Part → Option Stamp
  | createDevice _, (new : Device), .devices => some new.stamp
  | createTag _, (new : Tag), .rules => some new.stamp
  | _, _, _ => none

end Call

variable {s : Store} {now : Moment} {c : Call} {a : c.Answer} {p : Part} {r : Stamp}

/-- What an answer shows is stored then. -/
theorem mem_stamps_of_shows (h : (s.perform now c).1 = .ok a) (shown : r ∈ c.shows a p) :
    r ∈ (s.perform now c).2.stamps p := by
  have of_option {α : Type} {g : α → Stamp} {found : Option α} {rows : List α}
      (shown : r ∈ (found.map g).toList) (stored : ∀ x, found = some x → x ∈ rows) :
      r ∈ rows.map g := by
    obtain ⟨x, hx, rfl⟩ := Option.map_eq_some_iff.mp (Option.mem_toList.mp shown)
    exact List.mem_map_of_mem (stored x hx)
  cases p with
  | devices =>
    cases c with
    | listDevices =>
      cases h
      exact shown
    | getDevice id => exact of_option shown fun d hd => Devices.mem_of_get (hd ▸ h)
    | updateDevice id changes => exact of_option shown fun d hd => Devices.mem_of_update (hd ▸ h)
    | createDevice draft =>
      obtain rfl := List.mem_singleton.mp shown
      show a.stamp ∈ (s.devices.create now draft).2.rows.map Device.stamp
      rw [(Devices.create_eq_ok h).2, List.map_append]
      exact List.mem_append_right _ List.mem_cons_self
    | _ => cases shown
  | rules =>
    cases c with
    | listTags =>
      cases h
      exact shown
    | getTag id => exact of_option shown fun t ht => Tags.mem_of_get (ht ▸ h)
    | updateTag id changes => exact of_option shown fun t ht => Tags.mem_of_update (ht ▸ h)
    | createTag draft =>
      obtain rfl := List.mem_singleton.mp shown
      cases h
      show _ ∈ (s.tags.rows ++ [_]).map Tag.stamp
      rw [List.map_append]
      exact List.mem_append_right _ List.mem_cons_self
    | _ => cases shown

/-- A new record takes the next number. -/
theorem id_of_creates (h : (s.perform now c).1 = .ok a) (created : c.creates a p = some r) :
    r.id = .int (s.counter p) := by
  cases p with
  | devices =>
    cases c with
    | createDevice draft =>
      cases created
      exact (Devices.create_eq_ok h).1
    | _ => cases created
  | rules =>
    cases c with
    | createTag draft =>
      cases created
      cases h
      rfl
    | _ => cases created

end Store

end DeviceAlerts
