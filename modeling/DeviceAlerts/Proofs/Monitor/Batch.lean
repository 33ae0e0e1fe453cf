import DeviceAlerts.Proofs.Monitor.Exchange
import DeviceAlerts.Proofs.Tag.Typed

/-! Batches of tags with bad ones among them. A tag that means nothing is left out, and the others
are compiled as if it were not there. Only a pattern that is beyond the limits of the compiler of
patterns stops the batch, and with it the refresh of all rules. -/

namespace DeviceAlerts

open DeviceAlerts.Monitor DeviceAlerts.Time

/-! ### What is beyond the limits -/

/-- No text is too large an operand. -/
theorem Comparison.make?_text (type : CompareType) (operand : String) :
    (make? type (.text operand)).isSome = true := by
  cases type with
  | equal => rfl
  | threshold side =>
    simp only [make?, Datum.toNumber]
    cases Number.readBinary64? operand <;> rfl

namespace Tag

/-- The pattern of a tag is not beyond the limits; without a known comparison nobody looks at it. -/
def WithinLimits (t : Tag) : Prop :=
  (CompareType.ofDatum? t.condition.compareType).isSome = true →
    ∀ limit, Condition.compileRegexp t.condition.regexp ≠ .error (.limit limit)

theorem compile_eq_limit {t : Tag} (operand : ∃ s : String, t.condition.value = .text s)
    {limit : Condition.Limit} : t.compile = .error (.limit limit) ↔
      (CompareType.ofDatum? t.condition.compareType).isSome = true ∧
        Condition.compileRegexp t.condition.regexp = .error (.limit limit) := by
  obtain ⟨s, hs⟩ := operand
  unfold compile Condition.compile Condition.comparison
  cases CompareType.ofDatum? t.condition.compareType with
  | none => simp [bind, Except.bind, Except.map]
  | some type =>
    obtain ⟨k, hk⟩ := Option.isSome_iff_exists.mp (Comparison.make?_text type s)
    rw [hs]
    dsimp only
    rw [hk]
    cases Condition.compileRegexp t.condition.regexp <;>
      simp [bind, Except.bind, pure, Except.pure, Except.map]

theorem withinLimits_iff {t : Tag} (typed : t.draft.Typed) :
    t.WithinLimits ↔ ∀ limit, t.compile ≠ .error (.limit limit) := by
  simp only [WithinLimits, ne_eq, compile_eq_limit typed.value, not_and]
  exact forall_comm

theorem loadable_iff {t : Tag} (typed : t.draft.Typed) : t.Loadable ↔ t.WithinLimits := by
  rw [withinLimits_iff typed]
  obtain ⟨i, hi⟩ := typed.deviceId
  refine ⟨Loadable.within, fun within => ⟨within, fun _ _ => ?_⟩⟩
  rw [show t.deviceId = .int i from hi]
  rfl

end Tag

/-! ### Batches -/

namespace Compilation

theorem push_rules (t : Tag) (rest : Compilation) : (push t rest).rules =
    match t.compile with
    | .ok rule => rest.rules.map (rule :: ·)
    | .error (.fault _) => rest.rules
    | .error (.limit limit) => .error limit := by
  unfold push
  cases t.compile with
  | ok rule => rfl
  | error obstacle => cases obstacle <;> rfl

/-- The rules of a batch are those of its parts, one after the other. -/
theorem rules_append (first second : List Tag) : (ofTags (first ++ second)).rules = do
    let a ← (ofTags first).rules
    let b ← (ofTags second).rules
    return a ++ b := by
  induction first with
  | nil =>
    show (ofTags second).rules = _
    cases (ofTags second).rules <;> rfl
  | cons t rest ih =>
    show (push t (ofTags (rest ++ second))).rules = ((push t (ofTags rest)).rules >>= _)
    rw [push_rules, push_rules, ih]
    cases t.compile with
    | ok rule =>
      cases (ofTags rest).rules with
      | error limit => rfl
      | ok a => cases (ofTags second).rules <;> rfl
    | error obstacle =>
      cases obstacle with
      | fault fault => rfl
      | limit limit => rfl

end Compilation

/-! ### Refreshes -/

namespace Monitor.Setting

theorem isOk_run_publishRules (s : Setting) (ticket : Int) (tags : List Tag) :
    (s.run (publishRules ticket tags)).1.isOk = (Book.ofTags tags (s.chances 1).now).isOk := by
  cases hmade : Book.ofTags tags (s.chances 1).now with
  | error failure => rw [s.run_publishRules_error ticket hmade]
  | ok book =>
    rw [(s.run_publishRules_ok ticket hmade).1]
    rfl

/-- A refresh succeeds if the tags can be read and rules can be made of them. -/
theorem isOk_run_refreshRules (s : Setting) : (s.run refreshRules).1.isOk =
    ((s.chances 1).fault.isNone && (Book.ofTags s.site.rows (s.chances 3).now).isOk) := by
  have hissue : answer (.rules .issue) s = (s.site.rules.issued + 1, s.ticketed) := rfl
  rw [refreshRules_eq, run_ask, run_ask, hissue]
  cases hfault : (s.chances 1).fault with
  | some failure =>
    rw [s.ticketed.answer_store_error hfault]
    rfl
  | none =>
    rw [s.ticketed.answer_store_ok hfault]
    exact isOk_run_publishRules _ _ _

end Monitor.Setting

theorem Book.isOk_ofTags {tags : List Tag} {now : Moment} :
    (ofTags tags now).isOk = true ↔ ∀ t ∈ tags, t.Loadable := by
  constructor
  · intro h
    cases hmade : ofTags tags now with
    | error failure =>
      rw [hmade] at h
      cases h
    | ok book => exact (ofTags_eq_ok.mp hmade).1
  · intro h
    rw [ofTags_eq_ok.mpr ⟨h, rfl⟩]
    rfl

namespace Monitor

/-- Of tags with fields of the right types, those that compile make the rules, in the order of the
tags, as long as no pattern is beyond the limits, and the rules of a batch are those of its parts. A
refresh fails only if the tags cannot be read or a pattern is beyond the limits. -/
theorem rules_iff_withinLimits {tags : List Tag} (typed : ∀ t ∈ tags, t.draft.Typed) :
    (∀ rules, (Compilation.ofTags tags).rules = .ok rules ↔
        (∀ t ∈ tags, t.WithinLimits) ∧ rules = tags.filterMap Tag.rule?) ∧
      (∀ first second : List Tag, (Compilation.ofTags (first ++ second)).rules = do
        let a ← (Compilation.ofTags first).rules
        let b ← (Compilation.ofTags second).rules
        return a ++ b) ∧
      ∀ s : Setting, s.site.rows = tags →
        ((∃ failure, (s.run refreshRules).1 = .error failure) ↔
          .listTags ∈ s.failures refreshRules ∨ ∃ t ∈ tags, ¬ t.WithinLimits) := by
  refine ⟨fun rules => ?_, Compilation.rules_append, ?_⟩
  · rw [Compilation.rules_ofTags]
    have hlimits : (∀ t ∈ tags, ∀ limit, t.compile ≠ .error (.limit limit)) ↔
        ∀ t ∈ tags, t.WithinLimits :=
      forall₂_congr fun t ht => (Tag.withinLimits_iff (typed t ht)).symm
    rw [hlimits]
  · rintro s rfl
    have hloadable : (∀ t ∈ s.site.rows, t.Loadable) ↔ ∀ t ∈ s.site.rows, t.WithinLimits :=
      forall₂_congr fun t ht => Tag.loadable_iff (typed t ht)
    have hfails : (∃ failure, (s.run refreshRules).1 = .error failure) ↔
        ¬ (s.run refreshRules).1.isOk = true := by
      cases (s.run refreshRules).1 <;> simp [Except.isOk, Except.toBool]
    rw [hfails, s.isOk_run_refreshRules, Bool.and_eq_true, Book.isOk_ofTags, hloadable,
      s.failures_refreshRules]
    cases (s.chances 1).fault <;> simp

/-- Three tags, the second of which has the given pattern. -/
def batch (pattern : String) : List Tag :=
  let tag (id : Int) (regexp : String) : Tag := TagDraft.stored
    ⟨.int 1, .text "hot", ⟨.text regexp, .text ">", .text "5", .int 0⟩, .text "Hot", .text "high"⟩
    id ⟨0, none⟩
  [tag 1 ".", tag 2 pattern, tag 3 "."]

theorem typed_batch (pattern : String) : ∀ t ∈ batch pattern, t.draft.Typed := by
  have typed (regexp : String) : TagDraft.Typed ⟨.int 1, .text "hot",
      ⟨.text regexp, .text ">", .text "5", .int 0⟩, .text "Hot", .text "high"⟩ :=
    ⟨⟨_, rfl⟩, ⟨_, rfl⟩, ⟨_, rfl⟩, ⟨_, rfl⟩, ⟨_, rfl⟩, ⟨_, rfl⟩, ⟨_, rfl⟩, ⟨_, rfl⟩⟩
  intro t ht
  obtain rfl | rfl | rfl : t = _ ∨ t = _ ∨ t = _ := by simpa [batch] using ht
  all_goals exact typed _

theorem rules_iff_withinLimits_malformed :
    (Compilation.ofTags (batch "(")).rules = .ok ((batch "(").filterMap Tag.rule?) ∧
      ((batch "(").filterMap Tag.rule?).map (·.tag.id) = [.int 1, .int 3] := by
  have hids : (Compilation.ofTags (batch "(")).rules.map (·.map (·.tag.id)) =
      .ok [.int 1, .int 3] := by decide +kernel
  cases hrules : (Compilation.ofTags (batch "(")).rules with
  | error limit =>
    rw [hrules] at hids
    cases hids
  | ok rules =>
    have hcompiled := (((rules_iff_withinLimits (typed_batch "(")).1 rules).mp hrules).2
    rw [hrules, hcompiled] at hids
    exact ⟨congrArg _ hcompiled, Except.ok.inj hids⟩

/-- A pattern that repeats too often stops the batch and any refresh, though every other tag
compiles. -/
theorem batch_stopped_by_huge_repeat :
    (∀ t ∈ batch "a\x7b4294967295\x7d", t.draft.Typed) ∧
      ((batch "a\x7b4294967295\x7d").filterMap Tag.rule?).map (·.tag.id) = [.int 1, .int 3] ∧
      (Compilation.ofTags (batch "a\x7b4294967295\x7d")).rules.map (·.map (·.tag.id)) =
        .error .hugeRepeat ∧
      ∀ s : Setting, s.site.rows = batch "a\x7b4294967295\x7d" →
        (s.run refreshRules).1.isOk = false := by
  have hstopped : (Compilation.ofTags (batch "a\x7b4294967295\x7d")).rules.map
      (·.map (·.tag.id)) = .error .hugeRepeat := by decide +kernel
  refine ⟨typed_batch _, by decide +kernel, hstopped, fun s hs => ?_⟩
  rw [s.isOk_run_refreshRules, hs, Book.ofTags]
  cases hrules : (Compilation.ofTags (batch "a\x7b4294967295\x7d")).rules with
  | error limit => exact Bool.and_false _
  | ok rules =>
    rw [hrules] at hstopped
    cases hstopped

end Monitor

end DeviceAlerts
