import DeviceAlerts.Proofs.Numbering
import DeviceAlerts.Proofs.Store.Sequence
import DeviceAlerts.Store

/-! Devices under other numbers. A store in memory looks at the numbers of devices only to tell
devices apart: asked for the devices by other numbers, it answers the same under these. This is so
even if it uses up numbers for devices that it refuses. -/

namespace DeviceAlerts

open DeviceAlerts.Time

section

variable (f : Int → Int)

def Device.renumbered (d : Device) : Device := { d with id := d.id.renumbered f }

namespace Store

/-- A call that names devices by other numbers. -/
def Call.renumbered : Call → Call
  | getDevice id => getDevice (id.renumbered f)
  | updateDevice id changes => updateDevice (id.renumbered f) changes
  | deleteDevice id => deleteDevice (id.renumbered f)
  | c => c

/-- An answer in which devices have other numbers. -/
def Call.answerRenumbered : (c : Call) → c.Answer → (c.renumbered f).Answer
  | listDevices, devices => devices.map (Device.renumbered f)
  | getDevice _, device | updateDevice _ _, device => device.map (Device.renumbered f)
  | createDevice _, device => device.renumbered f
  | deleteDevice _, a | listTags, a | getTag _, a | createTag _, a | updateTag _ _, a
  | deleteTag _, a | insertMessage _, a | listMessages _, a | countByType _, a
  | dailyVolumes _, a => a

/-- A call and what it came to. -/
structure Answered where
  call : Call
  answer : Except Failure call.Answer

def Answered.renumbered (a : Answered) : Answered :=
  ⟨a.call.renumbered f, a.answer.map (a.call.answerRenumbered f)⟩

/-- The device that a call has created. -/
def Answered.created? : Answered → Option Device
  | ⟨.createDevice _, .ok device⟩ => some device
  | _ => none

/-- A call for devices or tags that names records by their numbers, and names fields that there are
and values of their types. No field is named twice, so at most one address is given. -/
def Call.WellFormed : Call → Prop
  | listDevices | listTags => True
  | getDevice id | deleteDevice id | getTag id | deleteTag id => ∃ i : Int, id = .int i
  | createDevice draft => draft.Typed
  | updateDevice id changes => (∃ i : Int, id = .int i) ∧ (∀ c ∈ changes, c.Typed) ∧
    (changes.filterMap DeviceChange.address?).length ≤ 1
  | createTag draft => draft.Typed
  | updateTag id changes => (∃ i : Int, id = .int i) ∧ (∀ c ∈ changes, c.Typed) ∧
    ∀ c ∈ changes, c.unknown? = none
  | insertMessage _ | listMessages _ | countByType _ | dailyVolumes _ => False

theorem Call.WellFormed.renumbered {c : Call} (h : c.WellFormed) :
    (c.renumbered f).WellFormed := by
  cases c with
  | getDevice id | deleteDevice id =>
    obtain ⟨i, rfl⟩ := h
    exact ⟨f i, rfl⟩
  | updateDevice id changes =>
    obtain ⟨⟨i, rfl⟩, hchanges⟩ := h
    exact ⟨⟨f i, rfl⟩, hchanges⟩
  | _ => exact h

end Store

end

/-! ### Devices -/

namespace Store.Devices

variable {f : Int → Int} (inj : f.Injective) {s t : Devices} {now : Moment} {i : Int}

include inj

theorem renumbered_id_iff {d e : Device} :
    (d.renumbered f).id = (e.renumbered f).id ↔ d.id = e.id :=
  (Datum.renumbered_injective inj).eq_iff

theorem renumbered_id_eq_int_iff {d : Device} : (d.renumbered f).id = .int (f i) ↔ d.id = .int i :=
  (Datum.renumbered_injective inj).eq_iff (b := .int i)

variable (same : t.rows = s.rows.map (Device.renumbered f))

include same

theorem find?_renumbered (i : Int) :
    t.find? (f i) = (s.find? i).map (Device.renumbered f) := by
  rw [find?, same, List.find?_map]
  simp only [Function.comp_def, renumbered_id_eq_int_iff inj]
  rfl

theorem addressTaken_renumbered (address : Datum) (except : Option Datum) :
    t.addressTaken address (except.map (Datum.renumbered f)) = s.addressTaken address except := by
  have other (d : Device) : some (d.renumbered f).id = except.map (Datum.renumbered f) ↔
      some d.id = except :=
    (Option.map_injective (Datum.renumbered_injective inj)).eq_iff (a := some d.id)
  rw [addressTaken, same, List.any_map]
  simp only [Function.comp_def, ne_eq, other]
  rfl

theorem rows_replace_renumbered (new : Device) :
    (t.replace (new.renumbered f)).rows = (s.replace new).rows.map (Device.renumbered f) := by
  simp only [replace, same, List.map_map]
  refine List.map_congr_left fun d _ => ?_
  simp only [Function.comp_apply, renumbered_id_iff inj]
  split <;> rfl

omit inj same in
theorem changeAll_renumbered (d : Device) (changes : List DeviceChange) :
    changeAll (d.renumbered f) changes = (changeAll d changes).map (Device.renumbered f) := by
  induction changes generalizing d with
  | nil => rfl
  | cons c rest ih =>
    have hc : change (d.renumbered f) c = (change d c).map (Device.renumbered f) := by
      cases c with
      | responsible given =>
        rw [change, change]
        cases given.readIntegers <;> rfl
      | _ => rfl
    simp only [changeAll] at ih ⊢
    rw [List.foldlM_cons, List.foldlM_cons, hc]
    cases change d c with
    | error _ => rfl
    | ok e => exact ih e

theorem revise_renumbered (old : Device) (changes : List DeviceChange) :
    t.revise now (old.renumbered f) changes =
      (s.revise now old changes).map (Device.renumbered f) := by
  have taken (a : Datum) :
      t.addressTaken a (some (old.renumbered f).id) = s.addressTaken a (some old.id) :=
    addressTaken_renumbered inj same a (some old.id)
  simp only [revise, taken]
  split
  · rfl
  · rw [changeAll_renumbered]
    cases changeAll old changes <;> rfl

theorem create_renumbered {draft : DeviceDraft}
    (given : ∀ device, (s.create now draft).1 = .ok device → f s.nextId = t.nextId) :
    (t.create now draft).1 = (s.create now draft).1.map (Device.renumbered f) ∧
      (t.create now draft).2.rows =
        (s.create now draft).2.rows.map (Device.renumbered f) := by
  have taken : t.addressTaken draft.address none = s.addressTaken draft.address none :=
    addressTaken_renumbered inj same draft.address none
  cases htaken : s.addressTaken draft.address none with
  | true =>
    simp only [create, taken, htaken, if_true]
    exact ⟨rfl, same⟩
  | false =>
    cases hpeople : draft.responsible.readIntegers with
    | error failure =>
      simp only [create, taken, htaken, hpeople, Bool.false_eq_true, if_false]
      exact ⟨rfl, same⟩
    | ok people =>
      simp only [create, taken, htaken, hpeople, Bool.false_eq_true, if_false] at given ⊢
      rw [← given _ rfl, same, List.map_append]
      exact ⟨rfl, rfl⟩

theorem update_renumbered (changes : List DeviceChange) :
    (t.update now (.int (f i)) changes).1 =
        (s.update now (.int i) changes).1.map (Option.map (Device.renumbered f)) ∧
      (t.update now (.int (f i)) changes).2.rows =
        (s.update now (.int i) changes).2.rows.map (Device.renumbered f) := by
  rw [update_int, update_int, find?_renumbered inj same]
  split
  · exact ⟨rfl, same⟩
  · cases s.find? i with
    | none => exact ⟨rfl, same⟩
    | some old =>
      simp only [Option.map_some, revise_renumbered inj same]
      cases s.revise now old changes with
      | error failure => exact ⟨rfl, same⟩
      | ok new => exact ⟨rfl, rows_replace_renumbered inj same new⟩

theorem delete_renumbered (i : Int) :
    (t.delete (.int (f i))).1 = (s.delete (.int i)).1 ∧
      (t.delete (.int (f i))).2.rows =
        (s.delete (.int i)).2.rows.map (Device.renumbered f) := by
  constructor
  · show Except.ok (t.rows.any fun d => d.id = .int (f i)) = .ok (s.rows.any fun d => d.id = .int i)
    rw [same, List.any_map]
    simp only [Function.comp_def, renumbered_id_eq_int_iff inj]
  · show (t.rows.filter fun d => d.id ≠ .int (f i)) =
      (s.rows.filter fun d => d.id ≠ .int i).map (Device.renumbered f)
    rw [same, List.filter_map]
    simp only [Function.comp_def, ne_eq, renumbered_id_eq_int_iff inj]

end Store.Devices

/-! ### Numbers that are used up -/

namespace Store

/-- How many numbers of devices a call uses up if a device that is refused uses up one as well. -/
def Call.spent : Call → Nat
  | createDevice _ => 1
  | _ => 0

theorem Answered.spent_of_created {a : Answered} (created : a.created?.isSome = true) :
    a.call.spent = 1 := by
  obtain ⟨c, answer⟩ := a
  cases c with
  | createDevice draft => rfl
  | _ => cases created

@[simp] theorem Call.spent_renumbered (f : Int → Int) (c : Call) :
    (c.renumbered f).spent = c.spent := by
  cases c <;> rfl

/-- Answers a call at the given time; a device that is refused uses up a number as well. -/
def spend (s : Store) (now : Moment) : (c : Call) → Except Failure c.Answer × Store
  | .createDevice draft =>
    ((s.devices.create now draft).1,
      { s with devices := ⟨s.devices.nextId + 1, (s.devices.create now draft).2.rows⟩ })
  | c => s.perform now c

theorem Devices.nextId_update (s : Devices) (now : Moment) (id : Datum)
    (changes : List DeviceChange) : (s.update now id changes).2.nextId = s.nextId := by
  simp only [Devices.update]
  split
  · rfl
  · cases id.readInteger with
    | error failure => rfl
    | ok i =>
      cases hfound : s.find? i with
      | none => simp only [hfound]
      | some old =>
        simp only [hfound]
        cases s.revise now old changes <;> rfl

theorem Devices.nextId_delete (s : Devices) (id : Datum) : (s.delete id).2.nextId = s.nextId := by
  unfold Devices.delete
  cases id.readInteger <;> rfl

theorem nextId_spend (s : Store) (now : Moment) (c : Call) :
    (s.spend now c).2.devices.nextId = s.devices.nextId + c.spent := by
  cases c with
  | createDevice draft => rfl
  | updateDevice id changes =>
    exact (s.devices.nextId_update now id changes).trans (Int.add_zero _).symm
  | deleteDevice id => exact (s.devices.nextId_delete id).trans (Int.add_zero _).symm
  | _ => exact (Int.add_zero _).symm

/-- A device that is created is given the next number; no other call uses one up. -/
theorem perform_numbers (s : Store) (now : Moment) {c : Call} (wellFormed : c.WellFormed) :
    match Answered.created? ⟨c, (s.perform now c).1⟩ with
    | some device => device.id = .int s.devices.nextId ∧
      (s.perform now c).2.devices.nextId = s.devices.nextId + 1
    | none => (s.perform now c).2.devices.nextId = s.devices.nextId := by
  cases c with
  | createDevice draft =>
    have created : s.devices.Created now draft (s.devices.create now draft) :=
      Devices.created_create wellFormed
    show match Answered.created? ⟨.createDevice draft, (s.devices.create now draft).1⟩ with
      | some device => device.id = .int s.devices.nextId ∧
        (s.devices.create now draft).2.nextId = s.devices.nextId + 1
      | none => (s.devices.create now draft).2.nextId = s.devices.nextId
    generalize s.devices.create now draft = result at created
    cases created with
    | taken _ _ => rfl
    | free _ _ => exact ⟨rfl, rfl⟩
  | updateDevice id changes => exact s.devices.nextId_update now id changes
  | deleteDevice id => exact s.devices.nextId_delete id
  | _ => rfl

/-! ### The store -/

/-- The same tags, and the same devices under other numbers. -/
structure Renumbers (f : Int → Int) (s t : Store) : Prop where
  devices : t.devices.rows = s.devices.rows.map (Device.renumbered f)
  tags : t.tags = s.tags

variable {f : Int → Int} {s t : Store} {now : Moment}

theorem Answered.renumbered_tags {c : Call} (kind : c.kind = .tags)
    (answer : Except Failure c.Answer) :
    Answered.renumbered f ⟨c, answer⟩ = ⟨c, answer⟩ := by
  cases c with
  | listTags | getTag _ | createTag _ | updateTag _ _ | deleteTag _ => cases answer <;> rfl
  | _ => cases kind

/-- Calls for tags look at nothing but the tags. -/
theorem perform_tags {c : Call} (kind : c.kind = .tags) (tags : t.tags = s.tags) :
    (t.perform now c).1 = (s.perform now c).1 ∧
      (t.perform now c).2.tags = (s.perform now c).2.tags ∧
      (t.perform now c).2.devices = t.devices ∧ (s.perform now c).2.devices = s.devices := by
  cases c with
  | listTags | getTag _ | createTag _ | updateTag _ _ | deleteTag _ =>
    simp only [perform, tags, and_self]
  | _ => cases kind

/-- Devices have to be created under the other numbers; otherwise calls do not tell the stores
apart. -/
theorem Renumbers.spend (r : Renumbers f s t) (inj : f.Injective) {c : Call}
    (wellFormed : c.WellFormed) (given : ∀ device,
      Answered.created? ⟨c, (s.perform now c).1⟩ = some device →
        f s.devices.nextId = t.devices.nextId) :
    Answered.mk (c.renumbered f) (t.spend now (c.renumbered f)).1 =
        (Answered.mk c (s.perform now c).1).renumbered f ∧
      Renumbers f (s.perform now c).2 (t.spend now (c.renumbered f)).2 := by
  have same := r.devices
  have onTags (kind : c.kind = .tags) := @perform_tags s t now c kind r.tags
  cases c with
  | listDevices =>
    exact ⟨congrArg (fun rows => Answered.mk .listDevices (.ok rows)) same, r⟩
  | getDevice id =>
    obtain ⟨i, rfl⟩ := wellFormed
    exact ⟨congrArg (fun device => Answered.mk (.getDevice (.int (f i))) (.ok device))
      (Devices.find?_renumbered inj same i), r⟩
  | createDevice draft =>
    obtain ⟨answers, rows⟩ := @Devices.create_renumbered f inj s.devices t.devices now same draft
      fun device created => given device (by
        show Answered.created? ⟨.createDevice draft, (s.devices.create now draft).1⟩ = _
        rw [created]
        rfl)
    exact ⟨congrArg (Answered.mk (.createDevice draft)) answers, rows, r.tags⟩
  | updateDevice id changes =>
    obtain ⟨⟨i, rfl⟩, -, -⟩ := wellFormed
    obtain ⟨answers, rows⟩ :=
      @Devices.update_renumbered f inj s.devices t.devices now i same changes
    exact ⟨congrArg (Answered.mk (.updateDevice (.int (f i)) changes)) answers, rows, r.tags⟩
  | deleteDevice id =>
    obtain ⟨i, rfl⟩ := wellFormed
    obtain ⟨answers, rows⟩ := Devices.delete_renumbered inj same i
    exact ⟨congrArg (Answered.mk (.deleteDevice (.int (f i)))) answers, rows, r.tags⟩
  | listTags | getTag _ | createTag _ | updateTag _ _ | deleteTag _ =>
    obtain ⟨answers, tags, later, before⟩ := onTags rfl
    rw [Answered.renumbered_tags rfl]
    refine ⟨congrArg (Answered.mk _) answers, ?_, tags⟩
    rw [before, ← same, ← later]
    rfl
  | _ => exact wellFormed.elim

end Store

end DeviceAlerts
