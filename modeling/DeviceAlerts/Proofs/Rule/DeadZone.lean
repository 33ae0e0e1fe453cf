import DeviceAlerts.Proofs.Number.Order
import DeviceAlerts.Proofs.Rule.Recovery

/-! A rule and the rule of its recovery tag. Both look for the same value and compare it with the
same limit, from opposite sides. So they never fire on the same text, and a value on which neither
fires is the limit itself, unless there are no two numbers to be compared. -/

namespace DeviceAlerts

open DeviceAlerts.Number DeviceAlerts.Time

/-! ### Opposite sides -/

theorem Side.not_isNaN_of_holds {side : Side} {value limit : Binary64}
    (h : side.holds value limit = true) : value.isNaN = false ∧ limit.isNaN = false := by
  cases side with
  | below => exact Binary64.not_isNaN_of_lt h
  | above => exact (Binary64.not_isNaN_of_lt h).symm

/-- A number lies on one side of a limit, or on the other, or is the limit. -/
theorem Side.trichotomy (side : Side) {value limit : Binary64} (hvalue : value.isNaN = false)
    (hlimit : limit.isNaN = false) :
    (side.holds value limit = true ∧ ¬ side.flipped.holds value limit = true ∧
        ¬ value.eq limit = true) ∨
      (¬ side.holds value limit = true ∧ side.flipped.holds value limit = true ∧
        ¬ value.eq limit = true) ∨
        (¬ side.holds value limit = true ∧ ¬ side.flipped.holds value limit = true ∧
          value.eq limit = true) := by
  have hcases := Binary64.lt_trichotomy hvalue hlimit
  cases side with
  | below => exact hcases
  | above =>
    rcases hcases with ⟨hlt, hgt, hne⟩ | ⟨hlt, hgt, hne⟩ | ⟨hlt, hgt, heq⟩
    · exact .inr (.inl ⟨hgt, hlt, hne⟩)
    · exact .inl ⟨hgt, hlt, hne⟩
    · exact .inr (.inr ⟨hgt, hlt, heq⟩)

namespace Comparison

/-- The limit of a threshold is its operand as a number, on whichever side. -/
theorem make?_threshold {side : Side} {operand : Datum} {k : Comparison}
    (h : make? (.threshold side) operand = some k) : ∃ limit : Option Binary64,
      (∀ other, make? (.threshold other) operand = some (.threshold other operand limit)) ∧
        k = .threshold side operand limit ∧ ∀ x, limit = some x ↔ operand.toNumber = .ok x := by
  simp only [make?] at h ⊢
  cases hnumber : operand.toNumber with
  | ok x =>
    rw [hnumber] at h
    cases h
    exact ⟨some x, fun _ => rfl, rfl, fun y => by simp⟩
  | error fault =>
    cases fault with
    | notNumber =>
      rw [hnumber] at h
      cases h
      exact ⟨none, fun _ => rfl, rfl, fun y => by simp⟩
    | tooLarge =>
      rw [hnumber] at h
      cases h

theorem judge_threshold_eq_holds {side : Side} {operand value : Datum} {limit : Option Binary64} :
    (threshold side operand limit).judge value = .holds ↔
      ∃ x number, limit = some x ∧ value.toNumber = .ok number ∧ side.holds number x = true := by
  cases limit with
  | none => simp [judge]
  | some x =>
    cases hnumber : value.toNumber with
    | error fault => cases fault <;> simp [judge, hnumber]
    | ok number => by_cases hside : side.holds number x = true <;> simp [judge, hnumber, hside]

end Comparison

/-! ### Rules that look for the same -/

namespace Rule

/-- The comparison of a rule holds of what it takes from a text. -/
def Matches (r : Rule) (text : String) : Prop := r.judge (.text text) = .ok .holds

/-- A rule takes a number from a text, and its operand is a number as well. -/
structure Compares (r : Rule) (text : String) (number limit : Binary64) : Prop where
  taken : ∃ value, r.matcher.extract (.text text) = .ok (some value) ∧
    Datum.toNumber (.text value) = .ok number
  operand : r.tag.condition.value.toNumber = .ok limit
  number_isNumber : number.isNaN = false
  limit_isNumber : limit.isNaN = false

theorem matches_iff {r : Rule} {text : String} : r.Matches text ↔
    ∃ value, r.matcher.extract (.text text) = .ok (some value) ∧
      r.matcher.comparison.judge (.text value) = .holds := by
  unfold Matches judge Matcher.judge
  cases r.matcher.extract (.text text) with
  | error breakdown => simp [Except.map]
  | ok taken => cases taken <;> simp [Except.map, Matcher.judgeFound]

/-- A threshold rule matches a text when the number that it takes lies on its side of the limit. -/
theorem matches_threshold {r : Rule} {side : Side} {limit : Option Binary64}
    (comparison : r.matcher.comparison = .threshold side r.tag.condition.value limit)
    (read : ∀ x, limit = some x ↔ r.tag.condition.value.toNumber = .ok x) (text : String) :
    r.Matches text ↔ ∃ number x, r.Compares text number x ∧ side.holds number x = true := by
  rw [matches_iff, comparison]
  constructor
  · rintro ⟨value, htaken, hjudge⟩
    obtain ⟨x, number, hlimit, hnumber, hside⟩ := Comparison.judge_threshold_eq_holds.mp hjudge
    obtain ⟨hvalue, hx⟩ := Side.not_isNaN_of_holds hside
    exact ⟨number, x, ⟨⟨value, htaken, hnumber⟩, (read x).mp hlimit, hvalue, hx⟩, hside⟩
  · rintro ⟨number, x, ⟨⟨value, htaken, hnumber⟩, hoperand, -, -⟩, hside⟩
    exact ⟨value, htaken, Comparison.judge_threshold_eq_holds.mpr
      ⟨x, number, (read x).mpr hoperand, hnumber, hside⟩⟩

theorem Compares.unique {r : Rule} {text : String} {number limit number' limit' : Binary64}
    (h : r.Compares text number limit) (h' : r.Compares text number' limit') :
    number = number' ∧ limit = limit' := by
  obtain ⟨⟨value, htaken, hnumber⟩, hlimit, -, -⟩ := h
  obtain ⟨⟨value', htaken', hnumber'⟩, hlimit', -, -⟩ := h'
  obtain rfl := Option.some.inj (Except.ok.inj (htaken.symm.trans htaken'))
  exact ⟨Except.ok.inj (hnumber.symm.trans hnumber'), Except.ok.inj (hlimit.symm.trans hlimit')⟩

end Rule

/-! ### Recoveries -/

namespace Tag

/-- A threshold tag and its recovery compile to rules that differ in the side of their limit. -/
theorem compile_recovery_of_threshold {t : Tag} {r : Rule} (compiled : t.compile = .ok r)
    (threshold : t.isThreshold = true) :
    ∃ side limit, (∀ x, limit = some x ↔ t.condition.value.toNumber = .ok x) ∧
      r.matcher.comparison = .threshold side t.condition.value limit ∧
      t.recovery? = some (t.recoveryOf (.threshold side)) ∧
      ∀ u : Tag, u.draft = t.recoveryOf (.threshold side) → u.compile = .ok
        ⟨u, { r.matcher with comparison := .threshold side.flipped t.condition.value limit }⟩ := by
  obtain ⟨-, hmatcher⟩ := compile_eq_ok.mp compiled
  obtain ⟨hcomparison, hpattern, hindex⟩ := Condition.compile_eq_ok.mp hmatcher
  obtain ⟨type, htype, hmake⟩ := Condition.comparison_eq_ok.mp hcomparison
  rw [isThreshold, htype] at threshold
  cases type with
  | equal => cases threshold
  | threshold side =>
    obtain ⟨limit, hsides, hown, hread⟩ := Comparison.make?_threshold hmake
    refine ⟨side, limit, hread, hown, ?_, fun u hdraft => ?_⟩
    · rw [recovery?, htype]
      rfl
    · have hcondition : u.condition = t.condition.withType (.threshold side.flipped) :=
        congrArg TagDraft.condition hdraft
      refine compile_of_condition (Condition.compile_eq_ok.mpr ⟨?_, ?_, ?_⟩)
      · refine Condition.comparison_eq_ok.mpr ⟨.threshold side.flipped, ?_, ?_⟩
        · rw [hcondition]
          exact CompareType.ofSymbol?_symbol _
        · rw [hcondition]
          exact hsides side.flipped
      · rw [hcondition]
        exact hpattern
      · rw [hcondition]
        exact hindex

/-- The recovery of a threshold tag compiles when the tag does, and takes the same value from every
text. When there are two numbers to be compared, the tag matches, or its recovery does, or the value
is the limit, and no two of these at once. Otherwise neither matches. -/
theorem matches_or_recovers_or_eq {t : Tag} {r : Rule} (compiled : t.compile = .ok r)
    (threshold : t.isThreshold = true) :
    ∃ draft, t.recovery? = some draft ∧ ∀ u : Tag, u.draft = draft → ∃ q, u.compile = .ok q ∧
      ∀ text : String,
        q.matcher.extract (.text text) = r.matcher.extract (.text text) ∧
        (∀ number limit, r.Compares text number limit →
          (r.Matches text ∧ ¬ q.Matches text ∧ ¬ number.eq limit = true) ∨
          (¬ r.Matches text ∧ q.Matches text ∧ ¬ number.eq limit = true) ∨
          (¬ r.Matches text ∧ ¬ q.Matches text ∧ number.eq limit = true)) ∧
        ((¬ ∃ number limit, r.Compares text number limit) →
          ¬ r.Matches text ∧ ¬ q.Matches text) := by
  obtain ⟨side, bound, hread, hown, hrecovery, hcompiled⟩ :=
    compile_recovery_of_threshold compiled threshold
  obtain ⟨rfl, -⟩ := compile_eq_ok.mp compiled
  refine ⟨_, hrecovery, fun u hdraft => ⟨_, hcompiled u hdraft, fun text => ⟨rfl, ?_⟩⟩⟩
  generalize hq : Rule.mk u _ = q
  have hvalue : q.tag.condition.value = r.tag.condition.value := by
    rw [← hq]
    exact congrArg (fun d : TagDraft => d.condition.value) hdraft
  have hother : q.matcher.comparison =
      .threshold side.flipped q.tag.condition.value bound := by
    rw [hvalue, ← hq]
  -- the two rules compare the same numbers
  have hsame (number limit : Binary64) :
      q.Compares text number limit ↔ r.Compares text number limit := by
    constructor <;> rintro ⟨taken, operand, hnumber, hlimit⟩
    · exact ⟨by rwa [← hq] at taken, hvalue ▸ operand, hnumber, hlimit⟩
    · exact ⟨by rwa [← hq], hvalue.symm ▸ operand, hnumber, hlimit⟩
  have hmatches := Rule.matches_threshold hown hread text
  have hrecovers := Rule.matches_threshold hother (by rwa [hvalue]) text
  simp only [hsame] at hrecovers
  constructor
  · intro number limit compares
    have hside (s : Side) : (∃ n x, r.Compares text n x ∧ s.holds n x = true) ↔
        s.holds number limit = true := by
      constructor
      · rintro ⟨n, x, other, holds⟩
        obtain ⟨rfl, rfl⟩ := compares.unique other
        exact holds
      · exact fun holds => ⟨number, limit, compares, holds⟩
    rw [hmatches, hrecovers, hside, hside]
    exact side.trichotomy compares.number_isNumber compares.limit_isNumber
  · intro incomparable
    rw [hmatches, hrecovers]
    exact ⟨fun ⟨n, x, compares, _⟩ => incomparable ⟨n, x, compares⟩,
      fun ⟨n, x, compares, _⟩ => incomparable ⟨n, x, compares⟩⟩

/-- A temperature above five is to be warned of. -/
def warm : Tag :=
  ⟨.int 1, .int 2, .text "warm", ⟨.text ".", .text ">", .text "5", .int 0⟩, .text "Warm",
    .text "high", .null, .null⟩

theorem matches_or_recovers_or_eq_warm :
    ∃ r q : Rule, warm.compile = .ok r ∧
      ((warm.recoveryOf (.threshold .above)).stored 7 ⟨0, none⟩).compile = .ok q ∧
      (r.Matches "9" ∧ ¬ q.Matches "9") ∧ (¬ r.Matches "5" ∧ ¬ q.Matches "5") ∧
      ¬ r.Matches "cold" ∧ ¬ q.Matches "cold" := by
  have compiled : warm.compile =
      .ok ⟨warm, ⟨_, .int 0, .threshold .above (.text "5") (some (.ofInt 5))⟩⟩ := rfl
  obtain ⟨draft, recovery, pair⟩ := matches_or_recovers_or_eq compiled rfl
  cases recovery
  obtain ⟨q, hq, zone⟩ := pair ((warm.recoveryOf (.threshold .above)).stored 7 ⟨0, none⟩) rfl
  refine ⟨_, q, compiled, hq, ?_, ?_, (zone "cold").2.2 ?_⟩
  · have apart := (zone "9").2.1 (.ofInt 9) (.ofInt 5) ⟨⟨"9", by decide +kernel, by decide +kernel⟩,
      by decide +kernel, by decide +kernel, by decide +kernel⟩
    obtain ⟨fires, silent, -⟩ | ⟨silent, -⟩ | ⟨-, -, same⟩ := apart
    · exact ⟨fires, silent⟩
    · exact absurd (show _ = _ by decide +kernel) silent
    · exact absurd same (by decide +kernel)
  · have apart := (zone "5").2.1 (.ofInt 5) (.ofInt 5) ⟨⟨"5", by decide +kernel, by decide +kernel⟩,
      by decide +kernel, by decide +kernel, by decide +kernel⟩
    obtain ⟨-, -, differs⟩ | ⟨-, -, differs⟩ | ⟨silent, quiet, -⟩ := apart
    · exact absurd (by decide +kernel) differs
    · exact absurd (by decide +kernel) differs
    · exact ⟨silent, quiet⟩
  · rintro ⟨number, limit, ⟨value, taken, read⟩, -⟩
    cases (show _ = Except.ok (some "c") by decide +kernel).symm.trans taken
    cases (show Datum.toNumber (.text "c") = .error .notNumber by decide +kernel).symm.trans read

end Tag

end DeviceAlerts
