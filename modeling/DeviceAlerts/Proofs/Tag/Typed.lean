import DeviceAlerts.Form.TagForm
import DeviceAlerts.Proofs.Store.Tags
import DeviceAlerts.Rule

/-! The types of the fields of tags. Nobody checks the fields of a record that is handed in, but the
forms only make records whose fields have the types that a response promises, and so do changes and
recoveries of such records. -/

namespace DeviceAlerts

open DeviceAlerts.Form DeviceAlerts.Time

/-- The fields of a draft have the types that a response promises. -/
structure TagDraft.Typed (d : TagDraft) : Prop where
  deviceId : ∃ i : Int, d.deviceId = .int i
  name : ∃ s : String, d.name = .text s
  regexp : ∃ s : String, d.condition.regexp = .text s
  compareType : ∃ s : String, d.condition.compareType = .text s
  value : ∃ s : String, d.condition.value = .text s
  arrayIndex : ∃ i : Int, d.condition.arrayIndex = .int i
  subject : ∃ s : String, d.subject = .text s
  severity : ∃ s : String, d.severity = .text s

structure Tag.Typed (t : Tag) : Prop where
  id : ∃ i : Int, t.id = .int i
  draft : t.draft.Typed
  createdAt : ∃ m : Moment, t.createdAt = .moment m
  updatedAt : ∃ m : Moment, t.updatedAt = .moment m

def TagChange.Typed : TagChange → Prop
  | deviceId given | arrayIndex given => ∃ i : Int, given = .int i
  | name given | regexp given | compareType given | value given | subject given
  | severity given => ∃ s : String, given = .text s
  | unknown _ => True

theorem TagDraft.Typed.stored {d : TagDraft} (h : d.Typed) (id : Int) (now : Moment) :
    (d.stored id now).Typed :=
  ⟨⟨id, rfl⟩, h, ⟨now, rfl⟩, ⟨now, rfl⟩⟩

/-! ### Changes -/

namespace Tag.Typed

variable {t : Tag}

theorem apply (h : t.Typed) {c : TagChange} (hc : c.Typed) : (c.apply t).Typed := by
  obtain ⟨id, draft, createdAt, updatedAt⟩ := h
  refine ⟨?_, ?_, ?_, ?_⟩
  · cases c <;> exact id
  · cases c with
    | unknown _ => exact draft
    | deviceId given => exact { draft with deviceId := hc }
    | name given => exact { draft with name := hc }
    | regexp given => exact { draft with regexp := hc }
    | compareType given => exact { draft with compareType := hc }
    | value given => exact { draft with value := hc }
    | arrayIndex given => exact { draft with arrayIndex := hc }
    | subject given => exact { draft with subject := hc }
    | severity given => exact { draft with severity := hc }
  · cases c <;> exact createdAt
  · cases c <;> exact updatedAt

theorem applyAll (h : t.Typed) {changes : List TagChange} (hc : ∀ c ∈ changes, c.Typed) :
    (TagChange.applyAll t changes).Typed := by
  induction changes generalizing t with
  | nil => exact h
  | cons c rest ih =>
    obtain ⟨hfirst, hrest⟩ := List.forall_mem_cons.mp hc
    exact ih (h.apply hfirst) hrest

/-- A recovery takes everything over from its tag but comparison, subject and severity. -/
theorem recovery {r : Rule} (h : r.tag.Typed) : r.recovery.Typed :=
  { h.draft with
    compareType := ⟨_, rfl⟩
    subject := ⟨_, rfl⟩
    severity := ⟨_, rfl⟩ }

end Tag.Typed

/-! ### Forms -/

namespace Form

theorem TagForm.typed_draft (f : TagForm) : f.draft.Typed :=
  ⟨⟨_, rfl⟩, ⟨_, rfl⟩, ⟨_, rfl⟩, ⟨_, rfl⟩, ⟨_, rfl⟩, ⟨_, rfl⟩, ⟨_, rfl⟩, ⟨_, rfl⟩⟩

theorem typed_of_given {α : Type} (o : Option α) {change : α → TagChange}
    (h : ∀ a, (change a).Typed) : ∀ c ∈ (o.map change).toList, c.Typed := by
  cases o with
  | none => exact nofun
  | some a =>
    intro c hc
    obtain rfl := List.mem_singleton.mp hc
    exact h a

theorem TagPatch.typed_changes (p : TagPatch) : ∀ c ∈ p.changes, c.Typed := by
  simp only [changes, List.forall_mem_append]
  refine ⟨⟨⟨⟨⟨⟨⟨?_, ?_⟩, ?_⟩, ?_⟩, ?_⟩, ?_⟩, ?_⟩, ?_⟩ <;>
    exact typed_of_given _ fun _ => ⟨_, rfl⟩

end Form

/-! ### Stored tags -/

namespace Store.Tags

/-- What is true of the tags that the service has stored. -/
structure Sound (s : Tags) : Prop where
  numbered : s.Numbered
  typed : ∀ t ∈ s.rows, t.Typed

namespace Sound

variable {s : Tags}

theorem create (h : s.Sound) (now : Moment) {draft : TagDraft} (typed : draft.Typed) :
    (s.create now draft).2.Sound := by
  refine ⟨h.numbered.create now draft, fun t ht => ?_⟩
  rcases List.mem_append.mp ht with ht | ht
  · exact h.typed t ht
  · obtain rfl := List.mem_singleton.mp ht
    exact typed.stored s.nextId now

theorem delete (h : s.Sound) (id : Datum) : (s.delete id).2.Sound :=
  ⟨h.numbered.delete id, fun t ht => h.typed t ((s.sublist_delete id).subset ht)⟩

theorem update (h : s.Sound) (now : Moment) (id : Datum) {changes : List TagChange}
    (typed : ∀ c ∈ changes, c.Typed) : (s.update now id changes).2.Sound := by
  refine ⟨h.numbered.update now id changes, ?_⟩
  simp only [Tags.update]
  split
  · exact h.typed
  · cases id.readInteger with
    | error failure => exact h.typed
    | ok i =>
      cases hfind : s.find? i with
      | none => simpa only [hfind] using h.typed
      | some old =>
        simp only [hfind]
        intro t ht
        obtain ⟨u, hu, rfl⟩ := List.mem_map.mp ht
        split
        · have hnew := (h.typed old (List.mem_of_find?_eq_some hfind)).applyAll typed
          exact { hnew with updatedAt := ⟨now, rfl⟩ }
        · exact h.typed u hu

end Sound

end Store.Tags

end DeviceAlerts
