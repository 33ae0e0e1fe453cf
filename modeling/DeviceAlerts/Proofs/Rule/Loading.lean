import DeviceAlerts.Proofs.Datum.Likeness
import DeviceAlerts.Proofs.Table
import DeviceAlerts.Rule.Book
import DeviceAlerts.Rule.Compilation
import DeviceAlerts.Store.Failure

/-! The rules that a refresh makes of the stored tags. A tag stops the refresh when it is beyond the
limits of compilation, or compiles for a device that cannot be looked up; every other tag either
has a rule or is left out. The rules of a device are those of its tags, in the order of the tags,
so nothing is lost or doubled on the way through the groups. -/

namespace DeviceAlerts

open DeviceAlerts.Time

/-! ### Compiled tags -/

namespace Condition

theorem comparison_eq_ok {c : Condition} {k : Comparison} : c.comparison = .ok k ↔
    ∃ type, CompareType.ofDatum? c.compareType = some type ∧
      Comparison.make? type c.value = some k := by
  unfold comparison
  cases CompareType.ofDatum? c.compareType with
  | none => simp
  | some type => cases hmake : Comparison.make? type c.value <;> simp [hmake]

theorem compile_eq_ok {c : Condition} {m : Matcher} : c.compile = .ok m ↔
    c.comparison = .ok m.comparison ∧ compileRegexp c.regexp = .ok m.pattern ∧
      m.index = c.arrayIndex := by
  obtain ⟨pattern, index, comparison⟩ := m
  simp only [compile]
  cases c.comparison with
  | error => simp [bind, Except.bind]
  | ok k =>
    cases compileRegexp c.regexp with
    | error => simp [bind, Except.bind]
    | ok p =>
      simp only [bind, Except.bind, pure, Except.pure, Except.ok.injEq, Matcher.mk.injEq]
      exact ⟨fun ⟨hp, hi, hk⟩ => ⟨hk, hp, hi.symm⟩, fun ⟨hk, hp, hi⟩ => ⟨hp, hi.symm, hk⟩⟩

end Condition

theorem Comparison.type_of_make? {type : CompareType} {operand : Datum} {k : Comparison}
    (h : make? type operand = some k) : k.type = type := by
  cases type with
  | equal =>
    cases h
    rfl
  | threshold side =>
    simp only [make?] at h
    split at h <;> cases h <;> rfl

namespace Tag

/-- The rule of a tag, when the tag compiles. -/
def rule? (t : Tag) : Option Rule := t.compile.toOption

theorem rule?_eq_some {t : Tag} {r : Rule} : t.rule? = some r ↔ t.compile = .ok r := by
  unfold rule?
  cases t.compile <;> simp [Except.toOption]

theorem compile_eq_ok {t : Tag} {r : Rule} :
    t.compile = .ok r ↔ r.tag = t ∧ t.condition.compile = .ok r.matcher := by
  obtain ⟨tag, matcher⟩ := r
  unfold compile
  cases t.condition.compile with
  | error => simp [Except.map]
  | ok m =>
    simp only [Except.map, Except.ok.injEq, Rule.mk.injEq]
    exact ⟨fun ⟨ht, hm⟩ => ⟨ht.symm, hm⟩, fun ⟨ht, hm⟩ => ⟨ht.symm, hm⟩⟩

/-- The comparison of a rule is the one that its tag names. -/
theorem type_of_compile {t : Tag} {r : Rule} (h : t.compile = .ok r) :
    CompareType.ofDatum? t.condition.compareType = some r.type := by
  obtain ⟨_, hm⟩ := compile_eq_ok.mp h
  obtain ⟨hk, _⟩ := Condition.compile_eq_ok.mp hm
  obtain ⟨type, ht, hmake⟩ := Condition.comparison_eq_ok.mp hk
  rw [ht, Rule.type, Comparison.type_of_make? hmake]

/-- A tag that stops no refresh. -/
structure Loadable (t : Tag) : Prop where
  within : ∀ limit, t.compile ≠ .error (.limit limit)
  keyed : ∀ r, t.compile = .ok r → t.deviceId.asKey = .ok t.deviceId

end Tag

/-! ### Compiling all tags -/

theorem Compilation.rules_ofTags {tags : List Tag} {rules : List Rule} :
    (ofTags tags).rules = .ok rules ↔
      (∀ t ∈ tags, ∀ limit, t.compile ≠ .error (.limit limit)) ∧
        rules = tags.filterMap Tag.rule? := by
  induction tags generalizing rules with
  | nil =>
    simp only [ofTags, List.foldr_nil, empty, Except.ok.injEq, List.filterMap_nil, List.not_mem_nil,
      false_implies, implies_true, true_and]
    exact eq_comm
  | cons t rest ih =>
    rw [show ofTags (t :: rest) = push t (ofTags rest) from rfl]
    simp only [push, List.forall_mem_cons, List.filterMap_cons]
    cases ht : t.compile with
    | ok r =>
      have hr : t.rule? = some r := Tag.rule?_eq_some.mpr ht
      cases hrest : (ofTags rest).rules with
      | error limit =>
        have beyond : ¬ ∀ t ∈ rest, ∀ limit, t.compile ≠ .error (.limit limit) := by
          intro all
          have := ih.mpr ⟨all, rfl⟩
          rw [hrest] at this
          cases this
        simp only [Except.map, reduceCtorEq, false_iff, not_and]
        exact fun all => absurd all.2 beyond
      | ok others =>
        obtain ⟨all, rfl⟩ := ih.mp hrest
        simp only [Except.map, Except.ok.injEq, hr]
        exact ⟨fun h => ⟨⟨nofun, all⟩, h.symm⟩, fun h => h.2.symm⟩
    | error obstacle =>
      have hr : t.rule? = none := by simp [Tag.rule?, ht, Except.toOption]
      cases obstacle with
      | fault fault => simp [hr, ih]
      | limit limit => simp

namespace Book

/-- The rules that are in force once the given tags are loaded. -/
def ofTags (tags : List Tag) (now : Moment) : Except Failure Book :=
  match (Compilation.ofTags tags).rules with
  | .error limit => .error (.limit limit)
  | .ok rules => (ofRules rules tags.length now).mapError .misuse

theorem asKey_eq_ok {d key : Datum} : d.asKey = .ok key ↔ d.asKey = .ok d ∧ key = d := by
  cases d <;> simp [Datum.asKey, eq_comm]

theorem mapM_asKey {ds keys : List Datum} :
    ds.mapM Datum.asKey = .ok keys ↔ (∀ d ∈ ds, d.asKey = .ok d) ∧ keys = ds := by
  induction ds generalizing keys with
  | nil => simp [pure, Except.pure, eq_comm]
  | cons d rest ih =>
    rw [List.mapM_cons, List.forall_mem_cons]
    cases hd : d.asKey with
    | error => simp [bind, Except.bind]
    | ok key =>
      obtain ⟨_, rfl⟩ := asKey_eq_ok.mp hd
      cases hrest : rest.mapM Datum.asKey with
      | error =>
        have unkeyed : ¬ ∀ d ∈ rest, d.asKey = .ok d := by
          intro all
          have := ih.mpr ⟨all, rfl⟩
          rw [hrest] at this
          cases this
        simp only [bind, Except.bind, reduceCtorEq, false_iff, not_and]
        exact fun all => absurd all.2 unkeyed
      | ok others =>
        obtain ⟨all, rfl⟩ := ih.mp hrest
        simp only [bind, Except.bind, pure, Except.pure, Except.ok.injEq]
        exact ⟨fun h => ⟨⟨trivial, all⟩, h.symm⟩, fun h => h.2.symm⟩

theorem ofRules_eq_ok {rules : List Rule} {count : Nat} {now : Moment} {book : Book} :
    ofRules rules count now = .ok book ↔
      (∀ r ∈ rules, r.tag.deviceId.asKey = .ok r.tag.deviceId) ∧
        book = ⟨group rules, some now, count⟩ := by
  unfold ofRules
  cases hkeys : (rules.map (·.tag.deviceId)).mapM Datum.asKey with
  | error =>
    simp only [Except.map, reduceCtorEq, false_iff, not_and]
    intro all
    have := mapM_asKey.mpr ⟨List.forall_mem_map.mpr all, rfl⟩
    rw [hkeys] at this
    cases this
  | ok keys =>
    have all := (mapM_asKey.mp hkeys).1
    rw [List.forall_mem_map] at all
    simp only [Except.map, Except.ok.injEq]
    exact ⟨fun h => ⟨all, h.symm⟩, fun h => h.2.symm⟩

/-- A refresh succeeds exactly when no tag stops it. -/
theorem ofTags_eq_ok {tags : List Tag} {now : Moment} {book : Book} :
    ofTags tags now = .ok book ↔
      (∀ t ∈ tags, t.Loadable) ∧
        book = ⟨group (tags.filterMap Tag.rule?), some now, tags.length⟩ := by
  unfold ofTags
  cases hrules : (Compilation.ofTags tags).rules with
  | error limit =>
    simp only [reduceCtorEq, false_iff, not_and]
    intro loadable
    have := Compilation.rules_ofTags.mpr ⟨fun t ht => (loadable t ht).within, rfl⟩
    rw [hrules] at this
    cases this
  | ok rules =>
    obtain ⟨within, rfl⟩ := Compilation.rules_ofTags.mp hrules
    have keyed : (∀ r ∈ tags.filterMap Tag.rule?, r.tag.deviceId.asKey = .ok r.tag.deviceId) ↔
        ∀ t ∈ tags, t.Loadable := by
      constructor
      · intro all t ht
        refine ⟨within t ht, fun r hr => ?_⟩
        have := all r (List.mem_filterMap.mpr ⟨t, ht, Tag.rule?_eq_some.mpr hr⟩)
        rwa [(Tag.compile_eq_ok.mp hr).1] at this
      · intro all r hr
        obtain ⟨t, ht, hcompiled⟩ := List.mem_filterMap.mp hr
        have hr := Tag.rule?_eq_some.mp hcompiled
        rw [(Tag.compile_eq_ok.mp hr).1]
        exact (all t ht).keyed r hr
    rw [← keyed, ← ofRules_eq_ok]
    cases hmade : ofRules (tags.filterMap Tag.rule?) tags.length now <;>
      simp [Except.mapError, hmade]

/-! ### The rules of a device -/

theorem get?_foldl_modify (rules : List Rule) (t : Table Datum (List Rule)) (d : Datum) :
    ((rules.foldl (fun t r => t.modify r.tag.deviceId fun old => old.getD [] ++ [r]) t).get? d).getD
        [] = (t.get? d).getD [] ++ rules.filter fun r => r.tag.deviceId == d := by
  induction rules generalizing t with
  | nil => simp
  | cons r rest ih =>
    rw [List.foldl_cons, ih, Table.get?_modify, List.filter_cons]
    split <;> simp

theorem rulesOf_group (rules : List Rule) (now : Option Moment) (count : Nat) (d : Datum) :
    rulesOf ⟨group rules, now, count⟩ d = rules.filter fun r => r.tag.deviceId == d := by
  simpa [rulesOf, find?, group] using get?_foldl_modify rules [] d

/-- The rules of a device are those of its tags, in the order of the tags. -/
theorem rulesOf_ofTags {tags : List Tag} {now : Moment} {book : Book}
    (h : ofTags tags now = .ok book) (d : Datum) :
    book.rulesOf d = (tags.filter fun t => t.deviceId == d).filterMap Tag.rule? := by
  obtain ⟨_, rfl⟩ := ofTags_eq_ok.mp h
  rw [rulesOf_group, List.filter_filterMap, List.filterMap_filter]
  apply List.filterMap_congr
  intro t _
  cases ht : t.rule? with
  | none => simp
  | some r =>
    have hr := (Tag.compile_eq_ok.mp (Tag.rule?_eq_some.mp ht)).1
    simp [Option.filter, hr]

theorem mem_rulesOf {tags : List Tag} {now : Moment} {book : Book}
    (h : ofTags tags now = .ok book) {d : Datum} {r : Rule} :
    r ∈ book.rulesOf d ↔ r.tag ∈ tags ∧ r.tag.compile = .ok r ∧ (r.tag.deviceId == d) = true := by
  rw [rulesOf_ofTags h, List.mem_filterMap]
  constructor
  · rintro ⟨t, ht, hr⟩
    obtain ⟨member, same⟩ := List.mem_filter.mp ht
    have hcompiled := Tag.rule?_eq_some.mp hr
    obtain ⟨rfl, _⟩ := Tag.compile_eq_ok.mp hcompiled
    exact ⟨member, hcompiled, same⟩
  · rintro ⟨member, hcompiled, same⟩
    exact ⟨r.tag, List.mem_filter.mpr ⟨member, same⟩, Tag.rule?_eq_some.mpr hcompiled⟩

end Book

end DeviceAlerts
