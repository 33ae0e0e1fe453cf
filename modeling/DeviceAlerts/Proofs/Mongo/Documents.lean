import DeviceAlerts.Proofs.Mongo.Records

/-! Devices and tags as documents. What is stored of a record of the right types is read back as it
is, and setting the fields of changes makes the document of the changed record. -/

namespace DeviceAlerts

open DeviceAlerts.Mongo DeviceAlerts.Store DeviceAlerts.Time

/-! ### Devices -/

namespace Device

def document (d : Device) : Document :=
  [("id", d.id), ("name", d.name), ("deviceType", d.type), ("address", d.address),
    ("responsible", .list d.responsible), ("createdAt", d.createdAt), ("updatedAt", d.updatedAt)]

theorem ofDocument_document {d : Device} (typed : d.Typed) : ofDocument d.document = .ok d := by
  obtain ⟨id, name, type, address, responsible, createdAt, updatedAt⟩ := d
  obtain ⟨⟨i, rfl⟩, -, -, -, ⟨people, rfl⟩, -, -⟩ := typed
  have read : Document.integers [("id", .int i), ("name", name), ("deviceType", type),
      ("address", address), ("responsible", .list (people.map .int)), ("createdAt", createdAt),
      ("updatedAt", updatedAt)] "responsible" = .ok people := by
    cases people with
    | nil => rfl
    | cons person rest => exact Datum.readIntegers_list (person :: rest)
  simp only [ofDocument, document, read]
  rfl

theorem keyed_document {d : Device} (typed : d.Typed) : Keyed .devices d.document := by
  obtain ⟨i, hid⟩ := typed.id
  obtain ⟨a, haddress⟩ := typed.address
  have id : d.document.get? "id" = some (.int i) := congrArg some hid
  have address : d.document.get? "address" = some (.text a) := congrArg some haddress
  simp [Keyed, Index.all, Kind.collection, id, address]

def codec : Codec Device where
  kind := .devices
  id := Device.id
  Typed := Device.Typed
  write := document
  read := ofDocument
  get?_id _ := rfl
  read_write := ofDocument_document
  keyed := keyed_document

theorem clash_document (d e : Device) :
    clash .devices d.document e.document =
      (decide (d.id = e.id) || decide (d.address = e.address)) := by
  rw [clash_devices, show d.document.get? "id" = some d.id from rfl,
    show e.document.get? "id" = some e.id from rfl,
    show d.document.get? "address" = some d.address from rfl,
    show e.document.get? "address" = some e.address from rfl]
  simp only [Option.some.injEq]

theorem clash_of_address {d e : Device} (same : d.address = e.address) :
    clash .devices d.document e.document = true := by
  rw [clash_document, decide_eq_true same, Bool.or_true]

end Device

theorem DeviceDraft.document_typed {draft : DeviceDraft} {people : List Int}
    (responsible : draft.responsible = .list (people.map .int)) (id : Int) (now : Moment) :
    draft.document id now = .ok (draft.stored people id now).document := by
  rw [document, responsible, Datum.readIntegers_list]
  rfl

theorem DeviceChange.Typed.exists_field {c : DeviceChange} (h : c.Typed) :
    ∃ f, c.field = .ok f ∧ ∀ (document : Document) (d : Device), document = d.document →
      Table.set f.1 f.2 document = (c.apply d).document := by
  cases c with
  | responsible given =>
    obtain ⟨people, rfl⟩ := h
    refine ⟨("responsible", .list (people.map .int)), ?_, ?_⟩
    · rw [field, Datum.readIntegers_list]
      rfl
    · rintro _ d rfl
      rfl
  | unknown _ => exact h.elim
  | _ =>
    refine ⟨_, rfl, ?_⟩
    rintro _ d rfl
    rfl

theorem DeviceChange.exists_fields {changes : List DeviceChange} (typed : ∀ c ∈ changes, c.Typed) :
    ∃ fields, DeviceChange.fields changes = .ok fields ∧ ∀ (now : Moment) (d : Device),
      d.document.setAll (fields ++ [("updatedAt", .moment now)]) =
        (revised now changes d).document := by
  obtain ⟨fields, hfields, sets⟩ := Mongo.exists_fields fun c hc => (typed c hc).exists_field
  refine ⟨fields, hfields, fun now d => ?_⟩
  rw [Document.setAll_append, sets _ _ rfl]
  rfl

/-! ### Tags -/

namespace Tag

def document (t : Tag) : Document :=
  [("id", t.id), ("deviceId", t.deviceId), ("name", t.name), ("regexp", t.condition.regexp),
    ("compareType", t.condition.compareType), ("value", t.condition.value),
    ("arrayIndex", t.condition.arrayIndex), ("subject", t.subject), ("severityLevel", t.severity),
    ("createdAt", t.createdAt), ("updatedAt", t.updatedAt)]

theorem ofDocument_document {t : Tag} (typed : t.Typed) : ofDocument t.document = .ok t := by
  obtain ⟨id, deviceId, name, ⟨regexp, compareType, value, arrayIndex⟩, subject, severity,
    createdAt, updatedAt⟩ := t
  obtain ⟨⟨i, rfl⟩, ⟨⟨d, hd⟩, -, -, -, ⟨v, hv⟩, ⟨n, hn⟩, -, -⟩, -, -⟩ := typed
  obtain rfl : deviceId = .int d := hd
  obtain rfl : value = .text v := hv
  obtain rfl : arrayIndex = .int n := hn
  rfl

theorem keyed_document {t : Tag} (typed : t.Typed) : Keyed .tags t.document := by
  obtain ⟨i, hid⟩ := typed.id
  have id : t.document.get? "id" = some (.int i) := congrArg some hid
  simp [Keyed, Index.all, Kind.collection, id]

def codec : Codec Tag where
  kind := .tags
  id := Tag.id
  Typed := Tag.Typed
  write := document
  read := ofDocument
  get?_id _ := rfl
  read_write := ofDocument_document
  keyed := keyed_document

theorem clash_document (t u : Tag) :
    clash .tags t.document u.document = decide (t.id = u.id) := by
  rw [clash_tags, show t.document.get? "id" = some t.id from rfl,
    show u.document.get? "id" = some u.id from rfl]
  simp only [Option.some.injEq]

end Tag

theorem TagDraft.document_typed {draft : TagDraft} (typed : draft.Typed) (id : Int)
    (now : Moment) : draft.document id now = .ok (draft.stored id now).document := by
  obtain ⟨deviceId, name, ⟨regexp, compareType, value, arrayIndex⟩, subject, severity⟩ := draft
  obtain ⟨d, rfl⟩ : ∃ d : Int, deviceId = .int d := typed.deviceId
  obtain ⟨n, rfl⟩ : ∃ n : Int, arrayIndex = .int n := typed.arrayIndex
  rfl

theorem TagChange.exists_field {c : TagChange} (known : c.unknown? = none) :
    ∃ f, c.field = .ok f ∧ ∀ (document : Document) (t : Tag), document = t.document →
      Table.set f.1 f.2 document = (c.apply t).document := by
  cases c with
  | unknown _ => cases known
  | _ =>
    refine ⟨_, rfl, ?_⟩
    rintro _ t rfl
    rfl

theorem TagChange.exists_fields {changes : List TagChange}
    (known : ∀ c ∈ changes, c.unknown? = none) :
    ∃ fields, TagChange.fields changes = .ok fields ∧ ∀ (now : Moment) (t : Tag),
      t.document.setAll (fields ++ [("updatedAt", .moment now)]) =
        (Tags.changed now changes t).document := by
  obtain ⟨fields, hfields, sets⟩ := Mongo.exists_fields fun c hc => exists_field (known c hc)
  refine ⟨fields, hfields, fun now t => ?_⟩
  rw [Document.setAll_append, sets _ _ rfl]
  rfl

end DeviceAlerts
