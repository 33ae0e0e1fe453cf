import DeviceAlerts.Monitor.Hysteresis
import DeviceAlerts.Proofs.Rule.Loading

/-! Recovery tags. Whether an alerting tag has its recovery is decided by looking among the rules in
force, but it comes to the same as looking among the stored tags: a tag that counts as the recovery
of a rule compiles when the rule does. -/

namespace DeviceAlerts

open DeviceAlerts.Time

/-! ### Concerns -/

namespace Condition

theorem alike_iff {a b : Condition} : a.alike b = true ↔
    (a.regexp == b.regexp) = true ∧ (a.compareType == b.compareType) = true ∧
      (a.value == b.value) = true ∧ (a.arrayIndex == b.arrayIndex) = true := by
  simp only [alike, Bool.and_eq_true, and_assoc]

theorem alike_symm {a b : Condition} (h : a.alike b = true) : b.alike a = true := by
  obtain ⟨hregexp, htype, hvalue, hindex⟩ := alike_iff.mp h
  exact alike_iff.mpr ⟨BEq.symm hregexp, BEq.symm htype, BEq.symm hvalue, BEq.symm hindex⟩

theorem alike_trans {a b c : Condition} (hab : a.alike b = true) (hbc : b.alike c = true) :
    a.alike c = true := by
  obtain ⟨hregexp, htype, hvalue, hindex⟩ := alike_iff.mp hab
  obtain ⟨hregexp', htype', hvalue', hindex'⟩ := alike_iff.mp hbc
  exact alike_iff.mpr ⟨PartialEquivBEq.trans hregexp hregexp', PartialEquivBEq.trans htype htype',
    PartialEquivBEq.trans hvalue hvalue', PartialEquivBEq.trans hindex hindex'⟩

end Condition

/-- What is looked for, and in the messages of which device. -/
structure Concern where
  deviceId : Datum
  condition : Condition

namespace Concern

def alike (a b : Concern) : Bool := a.deviceId == b.deviceId && a.condition.alike b.condition

instance : BEq Concern := ⟨alike⟩

theorem beq_iff {a b : Concern} : (a == b) = true ↔
    (a.deviceId == b.deviceId) = true ∧ a.condition.alike b.condition = true := by
  show alike a b = true ↔ _
  rw [alike, Bool.and_eq_true]

instance : PartialEquivBEq Concern where
  symm h := by
    obtain ⟨hdevice, hcondition⟩ := beq_iff.mp h
    exact beq_iff.mpr ⟨BEq.symm hdevice, Condition.alike_symm hcondition⟩
  trans hab hbc := by
    obtain ⟨hdevice, hcondition⟩ := beq_iff.mp hab
    obtain ⟨hdevice', hcondition'⟩ := beq_iff.mp hbc
    exact beq_iff.mpr ⟨PartialEquivBEq.trans hdevice hdevice',
      Condition.alike_trans hcondition hcondition'⟩

end Concern

def TagDraft.concern (d : TagDraft) : Concern := ⟨d.deviceId, d.condition⟩

namespace Tag

def concern (t : Tag) : Concern := ⟨t.deviceId, t.condition⟩

def isThreshold (t : Tag) : Bool :=
  (CompareType.ofDatum? t.condition.compareType).any CompareType.isThreshold

/-- A threshold tag under the subject of recovery tags, whoever has stored it. -/
def isAllClear (t : Tag) : Bool := t.isThreshold && t.isRecovery

/-- Whether a tag is an all-clear of the given concern. -/
def clears (t : Tag) (c : Concern) : Bool := t.isAllClear && t.concern == c

/-- The recovery of an alerting threshold tag. -/
def alarm? (t : Tag) : Option TagDraft :=
  if t.isThreshold && !t.isRecovery then t.recovery? else none

theorem isThreshold_of_compile {t : Tag} {r : Rule} (h : t.compile = .ok r) :
    t.isThreshold = r.isThreshold := by
  rw [isThreshold, type_of_compile h]
  rfl

theorem recovery?_of_compile {t : Tag} {r : Rule} (h : t.compile = .ok r) :
    t.recovery? = some r.recovery := by
  obtain ⟨rfl, _⟩ := compile_eq_ok.mp h
  rw [recovery?, type_of_compile h]
  rfl

/-! ### Recoveries that are there -/

theorem alarm?_eq_some {t : Tag} {draft : TagDraft} (h : t.alarm? = some draft) :
    t.isAllClear = false ∧
      ∃ type : CompareType, type.isThreshold = true ∧ draft = t.recoveryOf type := by
  unfold alarm? at h
  split at h
  · next halarm =>
    obtain ⟨hthreshold, halert⟩ := Bool.and_eq_true_iff.mp halarm
    obtain ⟨type, htype, rfl⟩ := Option.map_eq_some_iff.mp h
    rw [isThreshold, htype] at hthreshold
    refine ⟨?_, type, hthreshold, rfl⟩
    have hsubject : t.isRecovery = false := by simpa using halert
    rw [isAllClear, hsubject, Bool.and_false]
  · cases h

theorem isThreshold_flipped {type : CompareType} (h : type.isThreshold = true) :
    type.flipped.isThreshold = true := by
  cases type with
  | equal => cases h
  | threshold side => rfl

/-- A recovery is an all-clear once it is stored. -/
theorem isAllClear_of_alarm? {t : Tag} {draft : TagDraft} (h : t.alarm? = some draft) (id : Int)
    (now : Moment) : (draft.stored id now).isAllClear = true := by
  obtain ⟨_, type, hthreshold, rfl⟩ := alarm?_eq_some h
  have hflipped : (t.recoveryOf type |>.stored id now).isThreshold = true := by
    show Option.any _ (CompareType.ofSymbol? _) = true
    rw [CompareType.ofSymbol?_symbol]
    exact isThreshold_flipped hthreshold
  have hsubject : (t.recoveryOf type |>.stored id now).isRecovery = true := Datum.beq_text.mpr rfl
  rw [isAllClear, hflipped, hsubject]
  rfl

theorem clears_of_alarm? {t : Tag} {draft : TagDraft} (h : t.alarm? = some draft) (id : Int)
    (now : Moment) (c : Concern) : (draft.stored id now).clears c = (draft.concern == c) := by
  rw [clears, isAllClear_of_alarm? h]
  rfl

/-- What counts as the recovery of a threshold rule are the all-clears of its concern. -/
theorem agreesWith_recovery {t : Tag} {r : Rule} (h : r.isThreshold = true) :
    t.agreesWith r.recovery = t.clears r.recovery.concern := by
  have hsubject : (t.subject == r.recovery.subject) = t.isRecovery := rfl
  rw [Bool.eq_iff_iff, agreesWith, clears, isAllClear, hsubject]
  simp only [Bool.and_eq_true, Concern.beq_iff]
  constructor
  · rintro ⟨⟨hdevice, hcondition⟩, hrecovery⟩
    obtain ⟨_, htype, _⟩ := Condition.alike_iff.mp hcondition
    have hflipped : t.condition.compareType = .text r.type.flipped.symbol := Datum.beq_text.mp htype
    have hthreshold : t.isThreshold = true := by
      rw [isThreshold, hflipped, CompareType.ofDatum?, CompareType.ofSymbol?_symbol]
      exact isThreshold_flipped h
    exact ⟨⟨hthreshold, hrecovery⟩, hdevice, hcondition⟩
  · rintro ⟨⟨_, hrecovery⟩, hdevice, hcondition⟩
    exact ⟨⟨hdevice, hcondition⟩, hrecovery⟩

end Tag

/-! ### Recoveries compile -/

namespace Condition

theorem text_of_compileRegexp {d : Datum} {p : Pattern} (h : compileRegexp d = .ok p) :
    ∃ s, d = .text s := by
  cases d with
  | text s => exact ⟨s, rfl⟩
  | _ => cases h

/-- Once its comparison is known and its pattern compiles, a condition can only fail for its
operand. -/
theorem compile_or_hugeOperand {c : Condition} {type : CompareType} {p : Pattern}
    (htype : CompareType.ofDatum? c.compareType = some type) (hp : compileRegexp c.regexp = .ok p) :
    (∃ k, Comparison.make? type c.value = some k ∧ c.compile = .ok ⟨p, c.arrayIndex, k⟩) ∨
      c.compile = .error (.limit .hugeOperand) := by
  cases hmake : Comparison.make? type c.value with
  | some k =>
    have hk := comparison_eq_ok.mpr ⟨type, htype, hmake⟩
    exact .inl ⟨k, rfl, compile_eq_ok.mpr ⟨hk, hp, rfl⟩⟩
  | none =>
    refine .inr ?_
    simp only [compile, comparison, htype, hmake, bind, Except.bind]

end Condition

theorem Comparison.make?_flipped {type : CompareType} {operand : Datum}
    (h : (make? type operand).isSome = true) : (make? type.flipped operand).isSome = true := by
  cases type with
  | equal => rfl
  | threshold side =>
    simp only [make?, CompareType.flipped] at h ⊢
    split at h <;> simp_all

namespace Tag

theorem compile_of_condition {t : Tag} {m : Matcher} (h : t.condition.compile = .ok m) :
    t.compile = .ok ⟨t, m⟩ :=
  compile_eq_ok.mpr ⟨rfl, h⟩

/-- An all-clear compiles when it clears the concern of a rule's recovery. -/
theorem compile_of_clears {t : Tag} {r : Rule} (loadable : t.Loadable) (hr : r.tag.compile = .ok r)
    (h : t.clears r.recovery.concern = true) : ∃ rule, t.compile = .ok rule := by
  obtain ⟨_, hconcern⟩ := Bool.and_eq_true_iff.mp h
  obtain ⟨_, hcondition⟩ := Concern.beq_iff.mp hconcern
  obtain ⟨hregexp, htype, _⟩ := Condition.alike_iff.mp hcondition
  obtain ⟨_, hpattern, _⟩ := Condition.compile_eq_ok.mp (compile_eq_ok.mp hr).2
  obtain ⟨source, hsource⟩ := Condition.text_of_compileRegexp hpattern
  have hsame : t.condition.regexp = r.tag.condition.regexp := by
    rw [hsource]
    have : (t.condition.regexp == r.tag.condition.regexp) = true := hregexp
    rw [hsource] at this
    exact Datum.beq_text.mp this
  have hflipped : t.condition.compareType = .text r.type.flipped.symbol := Datum.beq_text.mp htype
  have hknown : CompareType.ofDatum? t.condition.compareType = some r.type.flipped := by
    rw [hflipped, CompareType.ofDatum?, CompareType.ofSymbol?_symbol]
  rcases Condition.compile_or_hugeOperand hknown (hsame ▸ hpattern) with ⟨k, _, hk⟩ | hlimit
  · exact ⟨_, compile_of_condition hk⟩
  · refine absurd ?_ (loadable.within .hugeOperand)
    rw [compile, hlimit]
    rfl

end Tag

namespace Rule

variable {r : Rule}

theorem compile_recovery (h : r.tag.compile = .ok r) (id : Int) (now : Moment) :
    ∃ rule, (r.recovery.stored id now).compile = .ok rule := by
  obtain ⟨hk, hpattern, _⟩ := Condition.compile_eq_ok.mp (Tag.compile_eq_ok.mp h).2
  obtain ⟨type, htype, hmake⟩ := Condition.comparison_eq_ok.mp hk
  have hflipped : CompareType.ofDatum? (r.recovery.stored id now).condition.compareType =
      some r.type.flipped := CompareType.ofSymbol?_symbol _
  have hsome : (Comparison.make? r.type.flipped r.tag.condition.value).isSome = true := by
    rw [← Comparison.type_of_make? hmake] at hmake
    exact Comparison.make?_flipped (Option.isSome_of_mem hmake)
  obtain ⟨flipped, hmade⟩ := Option.isSome_iff_exists.mp hsome
  have hcomparison := Condition.comparison_eq_ok.mpr ⟨_, hflipped, hmade⟩
  exact ⟨_, Tag.compile_of_condition (m := ⟨r.matcher.pattern, _, flipped⟩)
    (Condition.compile_eq_ok.mpr ⟨hcomparison, hpattern, rfl⟩)⟩

theorem loadable_recovery (loadable : r.tag.Loadable) (h : r.tag.compile = .ok r) (id : Int)
    (now : Moment) : (r.recovery.stored id now).Loadable := by
  obtain ⟨rule, hrule⟩ := r.compile_recovery h id now
  refine ⟨fun limit hlimit => ?_, fun _ _ => loadable.keyed r h⟩
  rw [hrule] at hlimit
  cases hlimit

/-- A recovery that is added can be loaded with the tags that are there. -/
theorem loadable_append (h : r.tag.compile = .ok r) (own : r.tag.Loadable) {rows : List Tag}
    (loadable : ∀ t ∈ rows, t.Loadable) (id : Int) (now : Moment) :
    ∀ t ∈ rows ++ [r.recovery.stored id now], t.Loadable := by
  intro t ht
  rcases List.mem_append.mp ht with ht | ht
  · exact loadable t ht
  · obtain rfl := List.mem_singleton.mp ht
    exact r.loadable_recovery own h id now

theorem alarm?_of_compile (h : r.tag.compile = .ok r) (hthreshold : r.isThreshold = true)
    (halert : r.tag.isRecovery = false) : r.tag.alarm? = some r.recovery := by
  rw [Tag.alarm?, Tag.isThreshold_of_compile h, hthreshold, halert]
  exact Tag.recovery?_of_compile h

theorem eq_recovery_of_alarm? (h : r.tag.compile = .ok r) {draft : TagDraft}
    (alarm : r.tag.alarm? = some draft) : draft = r.recovery := by
  unfold Tag.alarm? at alarm
  split at alarm
  · rw [Tag.recovery?_of_compile h] at alarm
    exact (Option.some.inj alarm).symm
  · cases alarm

end Rule

/-! ### Plans -/

namespace Monitor

variable {tags : List Tag} {now : Moment} {book : Book} {r : Rule}

theorem any_agrees (hbook : Book.ofTags tags now = .ok book) (hr : r.tag.compile = .ok r)
    (hthreshold : r.isThreshold = true) :
    (book.rulesOf r.tag.deviceId).any (fun other => other.tag.agreesWith r.recovery) =
      tags.any fun t => t.clears r.recovery.concern := by
  rw [Bool.eq_iff_iff, List.any_eq_true, List.any_eq_true]
  constructor
  · rintro ⟨other, hother, hagrees⟩
    rw [Tag.agreesWith_recovery hthreshold] at hagrees
    exact ⟨other.tag, ((Book.mem_rulesOf hbook).mp hother).1, hagrees⟩
  · rintro ⟨t, ht, hclears⟩
    have hloadable := (Book.ofTags_eq_ok.mp hbook).1 t ht
    obtain ⟨rule, hrule⟩ := Tag.compile_of_clears hloadable hr hclears
    obtain ⟨rfl, _⟩ := Tag.compile_eq_ok.mp hrule
    have hdevice := (Concern.beq_iff.mp (Bool.and_eq_true_iff.mp hclears).2).1
    refine ⟨rule, (Book.mem_rulesOf hbook).mpr ⟨ht, hrule, hdevice⟩, ?_⟩
    rwa [Tag.agreesWith_recovery hthreshold]

/-- The plan for a winner, read off the stored tags. The winner may be out of date, as long as no
other tag has taken its number. -/
theorem plan_eq (hbook : Book.ofTags tags now = .ok book) (hr : r.tag.compile = .ok r)
    (self : (r.tag.deviceId == r.tag.deviceId) = true) (hid : (r.tag.id == r.tag.id) = true)
    (known : ∀ t ∈ tags, (t.id == r.tag.id) = true → t = r.tag) :
    plan r book =
      if !r.isThreshold then .ignore
      else if r.tag.isRecovery then
        if r.tag ∈ tags then .delete r.tag.id else .settled .alreadyCleared
      else if tags.any (fun t => t.clears r.recovery.concern) then .settled .alreadyArmed
      else .create r.recovery := by
  have hactive : (book.rulesOf r.tag.deviceId).any (fun other => other.tag.id == r.tag.id) =
      decide (r.tag ∈ tags) := by
    rw [Bool.eq_iff_iff, List.any_eq_true, decide_eq_true_iff]
    constructor
    · rintro ⟨other, hother, hsame⟩
      obtain ⟨hmember, _, _⟩ := (Book.mem_rulesOf hbook).mp hother
      rwa [← known other.tag hmember hsame]
    · intro hmember
      exact ⟨r, (Book.mem_rulesOf hbook).mpr ⟨hmember, hr, self⟩, hid⟩
  unfold plan
  by_cases hthreshold : r.isThreshold = true
  · simp only [hactive, any_agrees hbook hr hthreshold, decide_eq_true_iff]
  · simp only [hthreshold, Bool.not_false, if_true]

end Monitor

end DeviceAlerts
