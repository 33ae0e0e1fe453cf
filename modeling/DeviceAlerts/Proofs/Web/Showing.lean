import DeviceAlerts.Proofs.Tag.Typed
import DeviceAlerts.Web.View
import Mathlib.Data.List.Forall2

/-! What a response shows of tags. Tags whose fields have the right types can be shown, alone and
as a list. -/

namespace DeviceAlerts

/-- A record without one of its fields. -/
def Datum.without (name : String) : Datum → Datum
  | .record fields => .record (Table.erase name fields)
  | other => other

namespace Web

open DeviceAlerts.Form DeviceAlerts.Time

variable {α : Type} {view : α → Checked Datum}

theorem showAll_sound {items : List α} {Q : α → Datum → Prop}
    (h : ∀ a ∈ items, ∃ d, view a = .sound d ∧ Q a d) :
    ∃ shown, showAll view items = .sound shown ∧ List.Forall₂ Q items shown := by
  induction items with
  | nil => exact ⟨[], rfl, .nil⟩
  | cons a rest ih =>
    obtain ⟨⟨d, hd, hq⟩, hrest⟩ := List.forall_mem_cons.mp h
    obtain ⟨shown, hshown, heach⟩ := ih hrest
    refine ⟨d :: shown, ?_, .cons hq heach⟩
    rw [showAll, hd, hshown]
    rfl

/-! ### Records -/

theorem showRecord_eq_sound_iff {fields : List (String × Checked Datum)} :
    (∃ d, showRecord fields = .sound d) ↔ ∀ f ∈ fields, ∃ d, f.2 = .sound d := by
  have rows : (∃ rows, showRecord.go fields = .sound rows) ↔ ∀ f ∈ fields, ∃ d, f.2 = .sound d := by
    induction fields with
    | nil => exact ⟨nofun, fun _ => ⟨[], rfl⟩⟩
    | cons f rest ih =>
      rw [List.forall_mem_cons, ← ih]
      obtain ⟨name, value⟩ := f
      show (∃ rows, Checked.both (value.map _) (showRecord.go rest) = .sound rows) ↔ _
      cases value <;> cases showRecord.go rest <;> simp [Checked.both, Checked.map]
  rw [← rows, showRecord]
  cases showRecord.go fields <;> simp [Checked.map]

/-- The same field, or one that can be shown in both cases and is left out. -/
def AlikeBut (name : String) (f g : String × Checked Datum) : Prop :=
  f = g ∨ f.1 = name ∧ g.1 = name ∧ (∃ d, f.2 = .sound d) ∧ ∃ d, g.2 = .sound d

/-- Records that differ in one field are alike without it, also when neither can be shown. -/
theorem showRecord_without {name : String} {fields others : List (String × Checked Datum)}
    (h : List.Forall₂ (AlikeBut name) fields others) :
    (showRecord fields).map (Datum.without name) =
      (showRecord others).map (Datum.without name) := by
  have rows : (showRecord.go fields).map (Table.erase name) =
      (showRecord.go others).map (Table.erase name) := by
    induction h with
    | nil => rfl
    | @cons f g rest more alike _ ih =>
      have step (x : String × Checked Datum) (rows : List (String × Checked Datum)) :
          showRecord.go (x :: rows) =
            (x.2.map fun d ds => (x.1, d) :: ds).both (showRecord.go rows) := rfl
      rw [step, step]
      rcases alike with rfl | ⟨hf, hg, ⟨d, hd⟩, e, he⟩
      · cases f.2 <;> cases hrest : showRecord.go rest <;> cases hmore : showRecord.go more <;>
          simp_all [Checked.both, Checked.map, Table.erase, List.filter_cons]
      · rw [hd, he, hf, hg]
        cases hrest : showRecord.go rest <;> cases hmore : showRecord.go more <;>
          simp_all [Checked.both, Checked.map, Table.erase]
  rw [showRecord, showRecord]
  cases hfields : showRecord.go fields <;> cases hothers : showRecord.go others <;>
    simp_all [Checked.map, Datum.without]

/-- Whether a device can be shown does not depend on the moment of its last update. -/
theorem deviceView_updated {d : Device} (h : ∃ shown, deviceView d = .sound shown) (now : Moment) :
    ∃ shown, deviceView { d with updatedAt := .moment now } = .sound shown := by
  rw [deviceView, showRecord_eq_sound_iff] at h ⊢
  simp only [List.forall_mem_cons] at h ⊢
  obtain ⟨name, type, address, responsible, id, createdAt, -, none⟩ := h
  exact ⟨name, type, address, responsible, id, createdAt, ⟨_, rfl⟩, none⟩

/-- A tag is shown with the mark that it is given. -/
theorem tagView_sound {t : Tag} (h : t.Typed) (active : Bool) :
    ∃ d, tagView t active = .sound d ∧ d.get? "active" = some (.bool active) := by
  obtain ⟨id, deviceId, name, ⟨regexp, compareType, value, index⟩, subject, severity, created,
    updated⟩ := t
  obtain ⟨⟨_, rfl⟩, ⟨⟨_, rfl⟩, ⟨_, rfl⟩, ⟨_, rfl⟩, ⟨_, rfl⟩, ⟨_, rfl⟩, ⟨_, rfl⟩, ⟨_, rfl⟩,
    ⟨_, rfl⟩⟩, ⟨_, rfl⟩, ⟨_, rfl⟩⟩ := h
  exact ⟨_, rfl, rfl⟩

/-- A tag is shown as the same record whatever its mark, but for the mark. -/
theorem tagView_without (t : Tag) (active mark : Bool) :
    (tagView t active).map (Datum.without "active") =
      (tagView t mark).map (Datum.without "active") := by
  refine showRecord_without ?_
  simp [AlikeBut]

end Web

end DeviceAlerts
