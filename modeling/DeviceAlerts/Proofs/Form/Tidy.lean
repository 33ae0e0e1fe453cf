import DeviceAlerts.Form
import DeviceAlerts.Proofs.Monitor.Batch
import DeviceAlerts.Proofs.Store.Addresses
import DeviceAlerts.Proofs.Tag.Typed
import Mathlib.Data.List.DropRight

/-! Tidy records. The forms hand over names and addresses without white space around them, known
comparisons and severities and indices that are not negative, and so does everything that is made of
tidy records. That a name is not empty is checked before its white space is removed. A tidy tag
compiles if its regular expression does. -/

namespace DeviceAlerts

open DeviceAlerts.Form DeviceAlerts.Store DeviceAlerts.Text DeviceAlerts.Time

/-! ### Trimming -/

namespace Text

theorem trimBy_trimBy (blank : Char → Bool) (cs : List Char) :
    trimBy blank (trimBy blank cs) = trimBy blank cs := by
  have hstart : (trimBy blank cs).IsPrefix (cs.dropWhile blank) := List.rdropWhile_prefix _ _
  have hfront : (trimBy blank cs).dropWhile blank = trimBy blank cs := by
    refine List.dropWhile_eq_self_iff.mpr fun hl hblank => ?_
    have hcs : cs.dropWhile blank ≠ [] := by
      intro hnil
      rw [hnil, List.prefix_nil] at hstart
      rw [hstart] at hl
      exact absurd hl (Nat.lt_irrefl 0)
    have hhead := List.head_dropWhile_not blank hcs
    rw [hstart.getElem hl, ← List.head_eq_getElem hcs, hhead] at hblank
    cases hblank
  show (trimBy blank cs |>.dropWhile blank).rdropWhile blank = _
  rw [hfront]
  exact List.rdropWhile_idempotent blank (cs.dropWhile blank)

theorem trim_trim (s : String) : trim (trim s) = trim s := by
  rw [trim, trim, String.toList_ofList, trimBy_trimBy]

end Text

namespace Datum

/-- Text without white space around it. -/
def IsTrimmed (d : Datum) : Prop := ∃ s : String, d = .text s ∧ trim s = s

/-- The same, and not empty. -/
def IsLabel (d : Datum) : Prop := ∃ s : String, d = .text s ∧ trim s = s ∧ s ≠ ""

theorem isTrimmed_trim (s : String) : (text (trim s)).IsTrimmed := ⟨_, rfl, trim_trim s⟩

theorem isLabel_trim {s : String} (h : trim s ≠ "") : (text (trim s)).IsLabel :=
  ⟨_, rfl, trim_trim s, h⟩

end Datum

/-! ### Devices -/

structure DeviceDraft.Tidy (d : DeviceDraft) : Prop where
  name : d.name.IsLabel
  type : d.type.IsTrimmed
  address : d.address.IsLabel

structure Device.Tidy (d : Device) : Prop where
  name : d.name.IsLabel
  type : d.type.IsTrimmed
  address : d.address.IsLabel

def DeviceChange.Tidy : DeviceChange → Prop
  | name given | address given => given.IsLabel
  | type given => given.IsTrimmed
  | responsible _ | unknown _ => True

namespace Device.Tidy

theorem change {d e : Device} (h : d.Tidy) {c : DeviceChange} (hc : c.Tidy)
    (made : Devices.change d c = .ok e) : e.Tidy := by
  cases c with
  | name given =>
    cases made
    exact { h with name := hc }
  | type given =>
    cases made
    exact { h with type := hc }
  | address given =>
    cases made
    exact { h with address := hc }
  | responsible given =>
    obtain ⟨people, rfl⟩ := Devices.change_responsible_eq_ok made
    exact { h with }
  | unknown field =>
    cases made
    exact h

theorem changeAll {d e : Device} (h : d.Tidy) {changes : List DeviceChange}
    (tidy : ∀ c ∈ changes, c.Tidy) (made : Devices.changeAll d changes = .ok e) : e.Tidy := by
  induction changes generalizing d with
  | nil =>
    cases made
    exact h
  | cons c rest ih =>
    obtain ⟨hc, hrest⟩ := List.forall_mem_cons.mp tidy
    obtain ⟨mid, hmid, made⟩ := Devices.changeAll_cons_eq_ok made
    exact ih (h.change hc hmid) hrest made

end Device.Tidy

/-! ### Tags -/

structure TagDraft.Tidy (d : TagDraft) : Prop where
  name : d.name.IsLabel
  compareType : ∃ type : CompareType, d.condition.compareType = .text type.symbol
  value : ∃ s : String, d.condition.value = .text s
  arrayIndex : ∃ n : Nat, d.condition.arrayIndex = .int n
  severity : ∃ v : Severity, d.severity = .text v.text

def Tag.Tidy (t : Tag) : Prop := t.draft.Tidy

def TagChange.Tidy : TagChange → Prop
  | name given => given.IsLabel
  | compareType given => ∃ type : CompareType, given = .text type.symbol
  | value given => ∃ s : String, given = .text s
  | arrayIndex given => ∃ n : Nat, given = .int n
  | severity given => ∃ v : Severity, given = .text v.text
  | deviceId _ | regexp _ | subject _ | unknown _ => True

namespace Tag.Tidy

variable {t : Tag}

theorem apply (h : t.Tidy) {c : TagChange} (hc : c.Tidy) : (c.apply t).Tidy := by
  cases c with
  | name given => exact { h with name := hc }
  | compareType given => exact { h with compareType := hc }
  | value given => exact { h with value := hc }
  | arrayIndex given => exact { h with arrayIndex := hc }
  | severity given => exact { h with severity := hc }
  | deviceId given => exact { h with }
  | regexp given => exact { h with }
  | subject given => exact { h with }
  | unknown field => exact h

theorem applyAll (h : t.Tidy) {changes : List TagChange} (tidy : ∀ c ∈ changes, c.Tidy) :
    (TagChange.applyAll t changes).Tidy := by
  induction changes generalizing t with
  | nil => exact h
  | cons c rest ih =>
    obtain ⟨hc, hrest⟩ := List.forall_mem_cons.mp tidy
    exact ih (h.apply hc) hrest

/-- A recovery is under no check of its own. -/
theorem recovery {r : Rule} (h : r.tag.Tidy) : r.recovery.Tidy :=
  { h with
    compareType := ⟨r.type.flipped, rfl⟩
    severity := ⟨.info, rfl⟩ }

/-- A tidy tag has a comparison, so its compilation is that of its regular expression. -/
theorem compile_eq (h : t.Tidy) : ∃ comparison, t.compile =
    (Condition.compileRegexp t.condition.regexp).map fun pattern =>
      ⟨t, ⟨pattern, t.condition.arrayIndex, comparison⟩⟩ := by
  obtain ⟨type, htype⟩ := h.compareType
  obtain ⟨operand, hvalue⟩ := h.value
  have known : CompareType.ofDatum? t.condition.compareType = some type := by
    rw [show t.condition.compareType = .text type.symbol from htype]
    exact CompareType.ofSymbol?_symbol type
  obtain ⟨comparison, hmade⟩ := Option.isSome_iff_exists.mp (Comparison.make?_text type operand)
  have hcomparison : t.condition.comparison = .ok comparison :=
    Condition.comparison_eq_ok.mpr ⟨type, known, by
      rw [show t.condition.value = .text operand from hvalue, hmade]⟩
  refine ⟨comparison, ?_⟩
  rw [Tag.compile, Condition.compile, hcomparison]
  cases Condition.compileRegexp t.condition.regexp <;> rfl

end Tag.Tidy

/-! ### Forms -/

namespace Form

theorem DeviceForm.tidy_draft {f : DeviceForm} (name : trim f.name ≠ "")
    (address : trim f.address ≠ "") : f.draft.Tidy :=
  ⟨Datum.isLabel_trim name, Datum.isTrimmed_trim f.type, Datum.isLabel_trim address⟩

theorem TagForm.tidy_draft {f : TagForm} (name : trim f.name ≠ "") : f.draft.Tidy :=
  ⟨Datum.isLabel_trim name, ⟨_, rfl⟩, ⟨_, rfl⟩, ⟨f.arrayIndex, rfl⟩, ⟨f.severity, rfl⟩⟩

theorem forall_of_given {α γ : Type} {P : γ → Prop} {o : Option α} {change : α → γ}
    (h : ∀ a, o = some a → P (change a)) : ∀ c ∈ (o.map change).toList, P c := by
  cases o with
  | none => exact nofun
  | some a =>
    intro c hc
    obtain rfl := List.mem_singleton.mp hc
    exact h a rfl

theorem DevicePatch.tidy_changes {p : DevicePatch} (name : ∀ s, p.name = some s → trim s ≠ "")
    (address : ∀ s, p.address = some s → trim s ≠ "") : ∀ c ∈ p.changes, c.Tidy := by
  simp only [changes, List.forall_mem_append]
  refine ⟨⟨⟨?_, ?_⟩, ?_⟩, ?_⟩
  · exact forall_of_given fun s hs => Datum.isLabel_trim (name s hs)
  · exact forall_of_given fun s _ => Datum.isTrimmed_trim s
  · exact forall_of_given fun s hs => Datum.isLabel_trim (address s hs)
  · exact forall_of_given fun _ _ => trivial

theorem TagPatch.tidy_changes {p : TagPatch} (name : ∀ s, p.name = some s → trim s ≠ "") :
    ∀ c ∈ p.changes, c.Tidy := by
  simp only [changes, List.forall_mem_append]
  refine ⟨⟨⟨⟨⟨⟨⟨?_, ?_⟩, ?_⟩, ?_⟩, ?_⟩, ?_⟩, ?_⟩, ?_⟩
  · exact forall_of_given fun s hs => Datum.isLabel_trim (name s hs)
  · exact forall_of_given fun _ _ => trivial
  · exact forall_of_given fun _ _ => trivial
  · exact forall_of_given fun type _ => ⟨type, rfl⟩
  · exact forall_of_given fun s _ => ⟨s, rfl⟩
  · exact forall_of_given fun n _ => ⟨n, rfl⟩
  · exact forall_of_given fun _ _ => trivial
  · exact forall_of_given fun v _ => ⟨v, rfl⟩

end Form

end DeviceAlerts
