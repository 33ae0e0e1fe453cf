import DeviceAlerts.Mongo.Script
import DeviceAlerts.Proofs.Mongo.Documents
import DeviceAlerts.Proofs.Protocol

/-! Documents that nobody vouches for. A document may lack fields, have others that no record
knows, and hold its fields in any order; all that counts is what is found under the names. Where
such a document can be read, the fields of changes make it the document of the changed record: a
field that is set is read back as the value that was given, and every other field as before. -/

namespace DeviceAlerts

open DeviceAlerts.Mongo DeviceAlerts.Number DeviceAlerts.Store DeviceAlerts.Time

/-! ### Fields after a field was set -/

namespace Document

variable (key other : String) (value : Datum) (d : Document)

theorem get?_set : (Table.set key value d).get? other =
    if key = other then some value else d.get? other := by
  rw [Table.get?_set]
  simp only [beq_iff_eq]

@[simp] theorem given_set : given (Table.set key value d) other =
    if key = other then value else d.given other := by
  unfold given
  rw [get?_set]
  split <;> rfl

@[simp] theorem optional_set : optional (Table.set key value d) other =
    if key = other then value else d.optional other := by
  unfold optional
  rw [get?_set]
  split <;> rfl

@[simp] theorem integer_set : integer (Table.set key value d) other =
    if key = other then value.readInteger else d.integer other := by
  unfold integer
  rw [get?_set]
  split <;> rfl

theorem need_set : need (Table.set key value d) other =
    if key = other then .ok value else d.need other := by
  unfold need
  rw [get?_set]
  by_cases same : key = other <;> simp [same]

@[simp] theorem needInteger_set : needInteger (Table.set key value d) other =
    if key = other then value.readInteger else d.needInteger other := by
  unfold needInteger
  rw [need_set]
  split <;> rfl

@[simp] theorem integers_set : integers (Table.set key value d) other =
    if key = other then if value.isTruthy then value.readIntegers else .ok []
    else d.integers other := by
  unfold integers
  rw [optional_set]
  split <;> rfl

end Document

/-- An empty list counts as nothing, which stands for no items. -/
theorem Datum.integers_list (people : List Int) :
    (if (list (people.map int)).isTruthy then (list (people.map int)).readIntegers else .ok []) =
      .ok people := by
  cases people with
  | nil => rfl
  | cons person rest => exact readIntegers_list (person :: rest)

/-! ### Changes of any record -/

/-- When a change fails for its name only, the first strange name is what all of them fail for. -/
theorem fields_eq_error {χ : Type} {field : χ → Except Failure (String × Datum)}
    {unknown? : χ → Option String} {changes : List χ} {failure : Failure}
    (each : ∀ c ∈ changes, match unknown? c with
      | none => ∃ f, field c = .ok f
      | some name => field c = .error (.unknownField name)) :
    changes.mapM field = .error failure ↔
      ∃ name, (changes.filterMap unknown?).head? = some name ∧ failure = .unknownField name := by
  induction changes with
  | nil => simp [pure, Except.pure]
  | cons c rest ih =>
    obtain ⟨here, hrest⟩ := List.forall_mem_cons.mp each
    rw [List.mapM_cons, List.filterMap_cons]
    cases hname : unknown? c with
    | some name =>
      rw [hname] at here
      rw [here]
      simp [bind, Except.bind, eq_comm]
    | none =>
      rw [hname] at here
      obtain ⟨f, hf⟩ := here
      rw [hf, ← ih hrest]
      cases rest.mapM field <;> simp [bind, Except.bind, pure, Except.pure]

/-! ### Tags -/

namespace Tag

theorem ofDocument_eq_ok {d : Document} {t : Tag} : ofDocument d = .ok t ↔
    ∃ id deviceId index, d.needInteger "id" = .ok id ∧ d.integer "deviceId" = .ok deviceId ∧
      d.integer "arrayIndex" = .ok index ∧
      t = ⟨.int id, .int deviceId, d.given "name",
        ⟨d.given "regexp", d.given "compareType", .text (d.given "value").plain, .int index⟩,
        d.given "subject", d.given "severityLevel", d.optional "createdAt",
        d.optional "updatedAt"⟩ := by
  unfold ofDocument
  simp only [bind_eq_ok]
  constructor
  · rintro ⟨id, hid, deviceId, hdevice, index, hindex, made⟩
    exact ⟨id, deviceId, index, hid, hdevice, hindex, (Except.ok.inj made).symm⟩
  · rintro ⟨id, deviceId, index, hid, hdevice, hindex, rfl⟩
    exact ⟨id, hid, deviceId, hdevice, index, hindex, rfl⟩

end Tag

theorem TagChange.Typed.exists_field_of_read {c : TagChange} (typed : c.Typed)
    (known : c.unknown? = none) : ∃ f, c.field = .ok f ∧ ∀ (d : Document) (t : Tag),
      Tag.ofDocument d = .ok t → Tag.ofDocument (Table.set f.1 f.2 d) = .ok (c.apply t) := by
  cases c with
  | unknown name => cases known
  | deviceId given =>
    obtain ⟨i, rfl⟩ := typed
    refine ⟨_, rfl, fun d t h => ?_⟩
    obtain ⟨id, deviceId, index, hid, -, hindex, rfl⟩ := Tag.ofDocument_eq_ok.mp h
    exact Tag.ofDocument_eq_ok.mpr ⟨id, i, index, by simpa, by simp; rfl, by simpa, by simp [apply]⟩
  | arrayIndex given =>
    obtain ⟨i, rfl⟩ := typed
    refine ⟨_, rfl, fun d t h => ?_⟩
    obtain ⟨id, deviceId, index, hid, hdevice, -, rfl⟩ := Tag.ofDocument_eq_ok.mp h
    exact Tag.ofDocument_eq_ok.mpr ⟨id, deviceId, i, by simpa, by simpa, by simp; rfl,
      by simp [apply]⟩
  | value given =>
    obtain ⟨s, rfl⟩ := typed
    refine ⟨_, rfl, fun d t h => ?_⟩
    obtain ⟨id, deviceId, index, hid, hdevice, hindex, rfl⟩ := Tag.ofDocument_eq_ok.mp h
    exact Tag.ofDocument_eq_ok.mpr ⟨id, deviceId, index, by simpa, by simpa, by simpa,
      by simp [apply, Datum.plain]⟩
  | _ =>
    refine ⟨_, rfl, fun d t h => ?_⟩
    obtain ⟨id, deviceId, index, hid, hdevice, hindex, rfl⟩ := Tag.ofDocument_eq_ok.mp h
    exact Tag.ofDocument_eq_ok.mpr ⟨id, deviceId, index, by simpa, by simpa, by simpa,
      by simp [apply]⟩

theorem TagChange.exists_fields_of_ofDocument {changes : List TagChange}
    (typed : ∀ c ∈ changes, c.Typed) (known : ∀ c ∈ changes, c.unknown? = none) :
    ∃ fields, TagChange.fields changes = .ok fields ∧ ∀ (d : Document) (t : Tag),
      Tag.ofDocument d = .ok t → Tag.ofDocument (d.setAll fields) = .ok (applyAll t changes) :=
  Mongo.exists_fields fun c hc => (typed c hc).exists_field_of_read (known c hc)

theorem TagChange.fields_eq_error {changes : List TagChange} {failure : Failure} :
    TagChange.fields changes = .error failure ↔ ∃ name,
      (changes.filterMap unknown?).head? = some name ∧ failure = .unknownField name :=
  DeviceAlerts.fields_eq_error fun c _ => by cases c <;> first | exact ⟨_, rfl⟩ | rfl

theorem TagDraft.exists_document (draft : TagDraft) (typed : draft.Typed) (id : Int)
    (now : Moment) : ∃ d, draft.document id now = .ok d ∧
      Tag.ofDocument d = .ok (draft.stored id now) :=
  ⟨_, document_typed typed id now, Tag.ofDocument_document (typed.stored id now)⟩

/-! ### Devices -/

namespace Device

theorem ofDocument_eq_ok {d : Document} {device : Device} : ofDocument d = .ok device ↔
    ∃ id people, d.needInteger "id" = .ok id ∧ d.integers "responsible" = .ok people ∧
      device = ⟨.int id, d.given "name", d.given "deviceType", d.given "address",
        people.map .int, d.optional "createdAt", d.optional "updatedAt"⟩ := by
  unfold ofDocument
  simp only [bind_eq_ok]
  constructor
  · rintro ⟨id, hid, people, hpeople, made⟩
    exact ⟨id, people, hid, hpeople, (Except.ok.inj made).symm⟩
  · rintro ⟨id, people, hid, hpeople, rfl⟩
    exact ⟨id, hid, people, hpeople, rfl⟩

end Device

theorem DeviceChange.Typed.exists_field_of_read {c : DeviceChange} (typed : c.Typed) :
    ∃ f, c.field = .ok f ∧ ∀ (d : Document) (device : Device), Device.ofDocument d = .ok device →
      Device.ofDocument (Table.set f.1 f.2 d) = .ok (c.apply device) := by
  cases c with
  | unknown name => exact typed.elim
  | responsible given =>
    obtain ⟨people, rfl⟩ := typed
    refine ⟨("responsible", .list (people.map .int)), ?_, fun d device h => ?_⟩
    · rw [field, Datum.readIntegers_list]
      rfl
    · obtain ⟨id, others, hid, -, rfl⟩ := Device.ofDocument_eq_ok.mp h
      refine Device.ofDocument_eq_ok.mpr ⟨id, people, by simpa, ?_, by simp [apply]⟩
      rw [Document.integers_set, if_pos rfl, Datum.integers_list]
  | _ =>
    refine ⟨_, rfl, fun d device h => ?_⟩
    obtain ⟨id, people, hid, hpeople, rfl⟩ := Device.ofDocument_eq_ok.mp h
    exact Device.ofDocument_eq_ok.mpr ⟨id, people, by simpa, by simpa, by simp [apply]⟩

theorem DeviceChange.exists_fields_of_ofDocument {changes : List DeviceChange}
    (typed : ∀ c ∈ changes, c.Typed) :
    ∃ fields, DeviceChange.fields changes = .ok fields ∧ ∀ (d : Document) (device : Device),
      Device.ofDocument d = .ok device →
        Device.ofDocument (d.setAll fields) = .ok (applyAll device changes) :=
  Mongo.exists_fields fun c hc => (typed c hc).exists_field_of_read

theorem DeviceChange.fields_eq_error {changes : List DeviceChange} {failure : Failure}
    (typed : ∀ c ∈ changes, c.unknown? = none → c.Typed) :
    DeviceChange.fields changes = .error failure ↔ ∃ name,
      (changes.filterMap unknown?).head? = some name ∧ failure = .unknownField name := by
  refine DeviceAlerts.fields_eq_error fun c hc => ?_
  cases hname : c.unknown? with
  | none =>
    obtain ⟨f, hf, -⟩ := (typed c hc hname).exists_field_of_read
    exact ⟨f, hf⟩
  | some name =>
    cases c with
    | unknown given =>
      cases hname
      rfl
    | _ => cases hname

theorem DeviceDraft.exists_document (draft : DeviceDraft) {people : List Int}
    (responsible : draft.responsible = .list (people.map .int)) (id : Int) (now : Moment) :
    ∃ d, draft.document id now = .ok d ∧
      Device.ofDocument d = .ok (draft.stored people id now) := by
  have people_read : Device.ofDocument (draft.stored people id now).document =
      .ok (draft.stored people id now) :=
    Device.ofDocument_eq_ok.mpr ⟨id, people, rfl, Datum.integers_list people, rfl⟩
  exact ⟨_, document_typed responsible id now, people_read⟩

/-! ### Messages -/

theorem Message.exists_document (m : Message) (numbered : ∃ i : Int, m.deviceId = .int i) :
    ∃ d, m.document = .ok d ∧ Message.ofDocument d = .ok m := by
  obtain ⟨deviceId, text, type, severity, component, received⟩ := m
  obtain ⟨i, hi⟩ := numbered
  obtain rfl : deviceId = .int i := hi
  exact ⟨_, rfl, rfl⟩

/-! ### What is inserted -/

namespace Mongo

/-- Whatever is asked, only documents that pass a test are inserted. -/
def insertsOnly (P : Collection → Document → Prop) : Protocol mongo where
  State := Unit
  may _ c := ∀ on document limit, c = .drive (.insert on document) limit → P on document
  reckons _ _ _ := True
  after _ _ _ := ()

namespace Attempt

variable {α β : Type} {P : Collection → Document → Prop}

def InsertsOnly (P : Collection → Document → Prop) (p : Attempt α) : Prop :=
  Program.Keeps (insertsOnly P) (fun _ _ => True) p.run ()

theorem insertsOnly_ofExcept (e : Except Failure α) : (ofExcept e).InsertsOnly P := trivial

theorem insertsOnly_now : now.InsertsOnly P := ⟨nofun, fun _ _ => trivial⟩

theorem InsertsOnly.bind {p : Attempt α} {f : α → Attempt β} (first : p.InsertsOnly P)
    (later : ∀ a, (f a).InsertsOnly P) : (p >>= f).InsertsOnly P := by
  refine Program.keeps_bind.mpr (Program.Keeps.mono first fun _ result _ => ?_)
  cases result with
  | ok a => exact later a
  | error failure => exact trivial

/-- What follows a value that may not be there only matters where it is. -/
theorem insertsOnly_ofExcept_bind {e : Except Failure α} {f : α → Attempt β}
    (later : ∀ a, e = .ok a → (f a).InsertsOnly P) : (ofExcept e >>= f).InsertsOnly P := by
  cases e with
  | ok a => exact later a rfl
  | error failure => exact trivial

theorem insertsOnly_withFailure {p : Attempt α} (h : p.InsertsOnly P) (f : Failure → Failure) :
    (p.withFailure f).InsertsOnly P :=
  Program.keeps_bind.mpr (Program.Keeps.mono h fun _ _ _ => trivial)

theorem InsertsOnly.of_mem_asked {p : Attempt α} (h : p.InsertsOnly P) {σ : Type}
    {driver : (c : mongo.Call) → σ → mongo.Answer c × σ} {s t : σ} {on : Collection}
    {document : Document} {limit : Option Binary64}
    (asked : (Call.drive (.insert on document) limit, t) ∈ Program.asked driver p.run s) :
    P on document := by
  obtain ⟨_, may⟩ := Program.Keeps.exists_may_of_mem_asked (fun _ _ _ => trivial) h _ asked
  exact may on document limit rfl

end Attempt

namespace Access

variable {P : Collection → Document → Prop} (a : Access)

theorem insertsOnly_reach : a.reach.InsertsOnly P := by
  refine ⟨nofun, fun (isConnected : Bool) _ => ?_⟩
  cases isConnected with
  | true => exact trivial
  | false => exact ⟨nofun, fun _ _ => trivial⟩

theorem insertsOnly_send {r : Request} (passes : ∀ on document, r = .insert on document →
    P on document) : (a.send r).InsertsOnly P := by
  refine ⟨fun on document limit same => ?_, fun _ _ => trivial⟩
  cases same
  exact passes on document rfl

theorem insertsOnly_request {r : Request} (passes : ∀ on document, r = .insert on document →
    P on document) : (a.request r).InsertsOnly P :=
  a.insertsOnly_reach.bind fun _ => a.insertsOnly_send passes

theorem insertsOnly_nextId (on : Collection) : (a.nextId on).InsertsOnly P :=
  (a.insertsOnly_request nofun).bind fun _ => Attempt.insertsOnly_ofExcept _

theorem insertsOnly_insert {on : Collection} {document : Document} (passes : P on document) :
    (a.request (.insert on document)).InsertsOnly P := by
  refine a.insertsOnly_request fun other d same => ?_
  cases same
  exact passes

theorem insertsOnly_createTag (draft : TagDraft) : (a.createTag draft).InsertsOnly
    fun on document => on = .tags ∧ ∃ id now, draft.document id now = .ok document := by
  refine Attempt.insertsOnly_now.bind fun now => (a.insertsOnly_nextId _).bind fun id => ?_
  refine Attempt.insertsOnly_ofExcept_bind fun document written => ?_
  exact (a.insertsOnly_insert ⟨rfl, id, now, written⟩).bind fun _ => Attempt.insertsOnly_ofExcept _

theorem insertsOnly_createDevice (draft : DeviceDraft) : (a.createDevice draft).InsertsOnly
    fun on document => on = .devices ∧ ∃ id now, draft.document id now = .ok document := by
  refine Attempt.InsertsOnly.bind (Attempt.insertsOnly_withFailure ?_ _)
    fun _ => Attempt.insertsOnly_ofExcept _
  refine Attempt.insertsOnly_now.bind fun now => (a.insertsOnly_nextId _).bind fun id => ?_
  refine Attempt.insertsOnly_ofExcept_bind fun document written => ?_
  exact (a.insertsOnly_insert ⟨rfl, id, now, written⟩).bind fun _ => Attempt.insertsOnly_ofExcept _

theorem insertsOnly_insertMessage (m : Message) : (a.insertMessage m).InsertsOnly
    fun on document => on = .messages ∧ m.document = .ok document := by
  refine Attempt.insertsOnly_ofExcept_bind fun document written => ?_
  exact (a.insertsOnly_insert ⟨rfl, written⟩).bind fun _ => Attempt.insertsOnly_ofExcept _

end Access

/-- A document that a store call inserts, for some answers of the driver. -/
def Inserts (c : Store.Call) (on : Collection) (document : Document) : Prop :=
  ∃ (σ : Type) (driver : (c : mongo.Call) → σ → mongo.Answer c × σ) (s t : σ) (uri : String)
    (bound limit : Option Binary64),
    (Call.drive (.insert on document) limit, t) ∈ Program.asked driver (perform uri bound c) s

variable {on : Collection} {d : Document}

theorem Inserts.tag {draft : TagDraft} (h : Inserts (.createTag draft) on d) :
    on = .tags ∧ ∃ id now, draft.document id now = .ok d := by
  obtain ⟨σ, driver, s, t, uri, bound, limit, asked⟩ := h
  exact (Access.insertsOnly_createTag ⟨uri, _, bound⟩ draft).of_mem_asked asked

theorem Inserts.device {draft : DeviceDraft} (h : Inserts (.createDevice draft) on d) :
    on = .devices ∧ ∃ id now, draft.document id now = .ok d := by
  obtain ⟨σ, driver, s, t, uri, bound, limit, asked⟩ := h
  exact (Access.insertsOnly_createDevice ⟨uri, _, bound⟩ draft).of_mem_asked asked

theorem Inserts.message {m : Message} (h : Inserts (.insertMessage m) on d) :
    on = .messages ∧ m.document = .ok d := by
  obtain ⟨σ, driver, s, t, uri, bound, limit, asked⟩ := h
  exact (Access.insertsOnly_insertMessage ⟨uri, _, bound⟩ m).of_mem_asked asked

/-- Writing, reading and changing agree on the names of all fields. Where a document is read as a
record, the fields of changes make it one that is read as the changed record; what is inserted for a
record is read as that record; and changes are refused for a strange name and nothing else. -/
theorem documents_agree :
    ((∀ changes : List TagChange, (∀ c ∈ changes, c.Typed) → (∀ c ∈ changes, c.unknown? = none) →
        ∃ fields, TagChange.fields changes = .ok fields ∧ ∀ (d : Document) (t : Tag),
          Tag.ofDocument d = .ok t →
            Tag.ofDocument (d.setAll fields) = .ok (TagChange.applyAll t changes)) ∧
      (∀ changes : List DeviceChange, (∀ c ∈ changes, c.Typed) →
        ∃ fields, DeviceChange.fields changes = .ok fields ∧ ∀ (d : Document) (device : Device),
          Device.ofDocument d = .ok device →
            Device.ofDocument (d.setAll fields) = .ok (DeviceChange.applyAll device changes))) ∧
    ((∀ draft : TagDraft, draft.Typed →
        (∀ id now, ∃ d, draft.document id now = .ok d ∧
          Tag.ofDocument d = .ok (draft.stored id now)) ∧
        ∀ on d, Inserts (.createTag draft) on d →
          on = .tags ∧ ∃ id now, draft.document id now = .ok d) ∧
      (∀ (draft : DeviceDraft) (people : List Int), draft.responsible = .list (people.map .int) →
        (∀ id now, ∃ d, draft.document id now = .ok d ∧
          Device.ofDocument d = .ok (draft.stored people id now)) ∧
        ∀ on d, Inserts (.createDevice draft) on d →
          on = .devices ∧ ∃ id now, draft.document id now = .ok d) ∧
      (∀ m : Message, (∃ i : Int, m.deviceId = .int i) →
        (∃ d, m.document = .ok d ∧ Message.ofDocument d = .ok m) ∧
        ∀ on d, Inserts (.insertMessage m) on d → on = .messages ∧ m.document = .ok d)) ∧
    ((∀ (changes : List TagChange) (failure : Failure),
        TagChange.fields changes = .error failure ↔ ∃ name,
          (changes.filterMap TagChange.unknown?).head? = some name ∧
            failure = .unknownField name) ∧
      (∀ (changes : List DeviceChange) (failure : Failure),
        (∀ c ∈ changes, c.unknown? = none → c.Typed) →
        (DeviceChange.fields changes = .error failure ↔ ∃ name,
          (changes.filterMap DeviceChange.unknown?).head? = some name ∧
            failure = .unknownField name))) := by
  refine ⟨⟨?_, ?_⟩, ⟨?_, ?_, ?_⟩, ?_, ?_⟩
  · exact fun changes => TagChange.exists_fields_of_ofDocument
  · exact fun changes => DeviceChange.exists_fields_of_ofDocument
  · exact fun draft typed => ⟨draft.exists_document typed, fun on d => Inserts.tag⟩
  · exact fun draft people typed => ⟨draft.exists_document typed, fun on d => Inserts.device⟩
  · exact fun m numbered => ⟨m.exists_document numbered, fun on d => Inserts.message⟩
  · exact fun changes failure => TagChange.fields_eq_error
  · exact fun changes failure typed => DeviceChange.fields_eq_error typed

/-- Hardly anything of a record, and something that no record has. -/
def bare : Document := [("value", .int 80), ("note", .null), ("id", .int 3)]

/-- More than eighty of anything. -/
def hot : TagDraft :=
  ⟨.int 1, .text "t", ⟨.text ".", .text ">", .text "80", .int 0⟩, .text "Hot", .text "high"⟩

theorem documents_agree_bare :
    (∃ fields, TagChange.fields [.subject (.text "OK"), .arrayIndex (.int 2)] = .ok fields ∧
      Tag.ofDocument (bare.setAll fields) = .ok ⟨.int 3, .int 0, .text "",
        ⟨.text "", .text "", .text "80", .int 2⟩, .text "OK", .text "", .null, .null⟩) ∧
    (∃ fields, DeviceChange.fields [.responsible (.list [.int 4, .int 2])] = .ok fields ∧
      Device.ofDocument (bare.setAll fields) = .ok ⟨.int 3, .text "", .text "", .text "",
        [.int 4, .int 2], .null, .null⟩) ∧
    (∃ d, Inserts (.createTag hot) .tags d ∧ Tag.ofDocument d = .ok (hot.stored 7 ⟨0, none⟩)) ∧
    TagChange.fields [.name .null, .unknown "id"] = .error (.unknownField "id") := by
  obtain ⟨⟨tags, devices⟩, ⟨inserted, -, -⟩, refused, -⟩ := documents_agree
  have typed : hot.Typed :=
    ⟨⟨1, rfl⟩, ⟨_, rfl⟩, ⟨_, rfl⟩, ⟨_, rfl⟩, ⟨_, rfl⟩, ⟨0, rfl⟩, ⟨_, rfl⟩, ⟨_, rfl⟩⟩
  refine ⟨?_, ?_, ?_, (refused _ _).mpr ⟨"id", rfl, rfl⟩⟩
  · obtain ⟨fields, hfields, reads⟩ := tags [.subject (.text "OK"), .arrayIndex (.int 2)]
      (by simp [TagChange.Typed]) (by simp [TagChange.unknown?])
    exact ⟨fields, hfields, reads bare _ rfl⟩
  · obtain ⟨fields, hfields, reads⟩ := devices [.responsible (.list [.int 4, .int 2])]
      (by simpa [DeviceChange.Typed] using ⟨[4, 2], rfl⟩)
    exact ⟨fields, hfields, reads bare _ rfl⟩
  · obtain ⟨stored, -⟩ := inserted hot typed
    obtain ⟨d, written, read⟩ := stored 7 ⟨0, none⟩
    obtain rfl : (hot.stored 7 ⟨0, none⟩).document = d := Except.ok.inj written
    let script := Script.start [.empty, ⟨none, [], .record [("seq", .int 7)], .int 0⟩] ⟨0, none⟩
    have asked := List.mem_of_getElem? (i := 5) (show (Program.asked Script.answer
      (perform "" none (.createTag hot)) script)[5]? = some _ from rfl)
    exact ⟨_, ⟨Script, _, _, _, _, _, _, asked⟩, read⟩

end Mongo

end DeviceAlerts
