import DeviceAlerts.Form.DeviceForm
import DeviceAlerts.Form.TagForm
import DeviceAlerts.Proofs.Device.Typed

/-! Patches. A patch becomes a list of changes that are made one after the other; what comes of them
is said here field by field. In this form it is plain that two patches in a row are one, in which
the second has the last word, and that a field that neither gives is never touched. -/

namespace DeviceAlerts.Form

open DeviceAlerts.Text DeviceAlerts.Time

variable {α β : Type}

/-- Of two values that are given one after the other, the second counts. -/
theorem getD_map_orElse (last first : Option α) (g : α → β) (old : β) :
    ((last <|> first).map g).getD old = (last.map g).getD ((first.map g).getD old) := by
  cases last <;> rfl

/-! ### Patches of tags -/

namespace TagPatch

/-- Of a field that both give, the second patch decides. -/
def overriddenBy (p q : TagPatch) : TagPatch where
  name := q.name <|> p.name
  deviceId := q.deviceId <|> p.deviceId
  regexp := q.regexp <|> p.regexp
  compareType := q.compareType <|> p.compareType
  value := q.value <|> p.value
  arrayIndex := q.arrayIndex <|> p.arrayIndex
  subject := q.subject <|> p.subject
  severity := q.severity <|> p.severity

/-- A patch that gives nothing. -/
def nothing : TagPatch := ⟨none, none, none, none, none, none, none, none⟩

/-- A tag with the values that a patch gives. -/
def revised (p : TagPatch) (t : Tag) : Tag where
  id := t.id
  deviceId := (p.deviceId.map .int).getD t.deviceId
  name := (p.name.map fun s => .text (trim s)).getD t.name
  condition.regexp := (p.regexp.map .text).getD t.condition.regexp
  condition.compareType := (p.compareType.map fun c => .text c.symbol).getD t.condition.compareType
  condition.value := (p.value.map .text).getD t.condition.value
  condition.arrayIndex := (p.arrayIndex.map fun n => .int n).getD t.condition.arrayIndex
  subject := (p.subject.map .text).getD t.subject
  severity := (p.severity.map fun v => .text v.text).getD t.severity
  createdAt := t.createdAt
  updatedAt := t.updatedAt

theorem applyAll_append (t : Tag) (first second : List TagChange) :
    TagChange.applyAll t (first ++ second) =
      TagChange.applyAll (TagChange.applyAll t first) second :=
  List.foldl_append

/-- A change that need not be given is one to the value that there was, if it is not. -/
theorem applyAll_given {change : Datum → TagChange} (field : Tag → Datum)
    (idle : ∀ t, (change (field t)).apply t = t) (o : Option α) (g : α → Datum) (t : Tag) :
    TagChange.applyAll t (o.map fun a => change (g a)).toList =
      (change ((o.map g).getD (field t))).apply t := by
  cases o with
  | none => exact (idle t).symm
  | some a => rfl

theorem applyAll_changes (p : TagPatch) (t : Tag) :
    TagChange.applyAll t p.changes = p.revised t := by
  simp only [changes, applyAll_append]
  rw [applyAll_given Tag.severity fun _ => rfl,
    applyAll_given Tag.subject fun _ => rfl,
    applyAll_given (fun t => t.condition.arrayIndex) fun _ => rfl,
    applyAll_given (fun t => t.condition.value) fun _ => rfl,
    applyAll_given (fun t => t.condition.compareType) fun _ => rfl,
    applyAll_given (fun t => t.condition.regexp) fun _ => rfl,
    applyAll_given Tag.deviceId fun _ => rfl,
    applyAll_given Tag.name fun _ => rfl]
  rfl

theorem revised_revised (p q : TagPatch) (t : Tag) :
    q.revised (p.revised t) = (p.overriddenBy q).revised t := by
  simp only [revised, overriddenBy, getD_map_orElse]

/-- What a tag becomes by a patch. A patch that gives nothing is no update. -/
def outcome (p : TagPatch) (now : Moment) (t : Tag) : Tag :=
  if p.changes.isEmpty then t else { p.revised t with updatedAt := .moment now }

@[simp] theorem id_outcome (p : TagPatch) (now : Moment) (t : Tag) :
    (p.outcome now t).id = t.id := by
  unfold outcome
  split <;> rfl

theorem outcome_eq (p : TagPatch) (now : Moment) (t : Tag) :
    p.outcome now t = { p.revised t with updatedAt := (p.outcome now t).updatedAt } := by
  unfold outcome
  split
  · next h =>
    have same := p.applyAll_changes t
    rw [List.isEmpty_iff.mp h] at same
    rw [← same]
    rfl
  · rfl

/-- Two patches in a row are one, up to the time of the last update. -/
theorem outcome_outcome (p q : TagPatch) (first later now : Moment) (t : Tag) :
    (p.overriddenBy q).outcome now t = { q.outcome later (p.outcome first t) with
      updatedAt := ((p.overriddenBy q).outcome now t).updatedAt } := by
  rw [outcome_eq q, outcome_eq p, outcome_eq (p.overriddenBy q), ← revised_revised]
  rfl

/-- What neither patch gives is the same in both tags, and so are the number and the time of
creation. -/
structure Spares (p q : TagPatch) (t u : Tag) : Prop where
  id : u.id = t.id
  createdAt : u.createdAt = t.createdAt
  name : p.name = none → q.name = none → u.name = t.name
  deviceId : p.deviceId = none → q.deviceId = none → u.deviceId = t.deviceId
  regexp : p.regexp = none → q.regexp = none → u.condition.regexp = t.condition.regexp
  compareType : p.compareType = none → q.compareType = none →
    u.condition.compareType = t.condition.compareType
  value : p.value = none → q.value = none → u.condition.value = t.condition.value
  arrayIndex : p.arrayIndex = none → q.arrayIndex = none →
    u.condition.arrayIndex = t.condition.arrayIndex
  subject : p.subject = none → q.subject = none → u.subject = t.subject
  severity : p.severity = none → q.severity = none → u.severity = t.severity

theorem spares_outcome (p q : TagPatch) (now : Moment) (t : Tag) :
    p.Spares q t ((p.overriddenBy q).outcome now t) := by
  rw [outcome_eq]
  constructor <;> intros <;> simp [revised, overriddenBy, *]

end TagPatch

/-! ### Patches of devices -/

namespace DevicePatch

/-- Of a field that both give, the second patch decides. -/
def overriddenBy (p q : DevicePatch) : DevicePatch where
  name := q.name <|> p.name
  type := q.type <|> p.type
  address := q.address <|> p.address
  responsible := q.responsible <|> p.responsible

/-- A patch that gives nothing. -/
def nothing : DevicePatch := ⟨none, none, none, none⟩

theorem isEmpty_changes_iff {p : DevicePatch} : p.changes.isEmpty = true ↔ p = nothing := by
  obtain ⟨name, type, address, responsible⟩ := p
  simp [changes, nothing]

theorem overriddenBy_eq_nothing {p q : DevicePatch} (h : p.overriddenBy q = nothing) :
    p = nothing ∧ q = nothing := by
  obtain ⟨name, type, address, responsible⟩ := p
  obtain ⟨name', type', address', responsible'⟩ := q
  simp_all [overriddenBy, nothing]

/-- A device with the values that a patch gives. -/
def revised (p : DevicePatch) (d : Device) : Device where
  id := d.id
  name := (p.name.map fun s => .text (trim s)).getD d.name
  type := (p.type.map fun s => .text (trim s)).getD d.type
  address := (p.address.map fun s => .text (trim s)).getD d.address
  responsible := (p.responsible.map fun ids => ids.map .int).getD d.responsible
  createdAt := d.createdAt
  updatedAt := d.updatedAt

theorem applyAll_changes (p : DevicePatch) (d : Device) :
    DeviceChange.applyAll d p.changes = p.revised d := by
  obtain ⟨name, type, address, responsible⟩ := p
  cases name <;> cases type <;> cases address <;> cases responsible <;> rfl

theorem revised_revised (p q : DevicePatch) (d : Device) :
    q.revised (p.revised d) = (p.overriddenBy q).revised d := by
  simp only [revised, overriddenBy, getD_map_orElse]

/-- What a device becomes by a patch. A patch that gives nothing is no update. -/
def outcome (p : DevicePatch) (now : Moment) (d : Device) : Device :=
  if p.changes.isEmpty then d else { p.revised d with updatedAt := .moment now }

@[simp] theorem id_outcome (p : DevicePatch) (now : Moment) (d : Device) :
    (p.outcome now d).id = d.id := by
  unfold outcome
  split <;> rfl

theorem outcome_eq (p : DevicePatch) (now : Moment) (d : Device) :
    p.outcome now d = { p.revised d with updatedAt := (p.outcome now d).updatedAt } := by
  unfold outcome
  split
  · next h =>
    have same := p.applyAll_changes d
    rw [List.isEmpty_iff.mp h] at same
    rw [← same]
    rfl
  · rfl

theorem outcome_outcome (p q : DevicePatch) (first later now : Moment) (d : Device) :
    (p.overriddenBy q).outcome now d = { q.outcome later (p.outcome first d) with
      updatedAt := ((p.overriddenBy q).outcome now d).updatedAt } := by
  rw [outcome_eq q, outcome_eq p, outcome_eq (p.overriddenBy q), ← revised_revised]
  rfl

/-- What neither patch gives is the same in both devices, and so are the number and the time of
creation. -/
structure Spares (p q : DevicePatch) (d e : Device) : Prop where
  id : e.id = d.id
  createdAt : e.createdAt = d.createdAt
  name : p.name = none → q.name = none → e.name = d.name
  type : p.type = none → q.type = none → e.type = d.type
  address : p.address = none → q.address = none → e.address = d.address
  responsible : p.responsible = none → q.responsible = none → e.responsible = d.responsible

theorem spares_outcome (p q : DevicePatch) (now : Moment) (d : Device) :
    p.Spares q d ((p.overriddenBy q).outcome now d) := by
  rw [outcome_eq]
  constructor <;> intros <;> simp [revised, overriddenBy, *]

end DevicePatch

end DeviceAlerts.Form
