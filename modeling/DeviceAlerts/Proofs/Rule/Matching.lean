import DeviceAlerts.Monitor.Classify
import DeviceAlerts.Proofs.Datum.Order
import DeviceAlerts.Proofs.Rule.Loading

/-! What it takes for a rule to fire when its index is a number. A rule that breaks does not fire,
so an index that names no group is as good as a group that took no part. A rule may break in its
search, at its index, or in the comparison of what it takes, but with a number for an index only
the search is left: an index beyond the groups is not followed, a group that took no part is not
compared, and what a group took is a text, which is a number or none but never one that is too
large. -/

namespace DeviceAlerts

namespace Datum

theorem stands_below_int (i j : Int) : stands .below (int i) (int j) = .ok (decide (i < j)) := by
  rw [stands_int, Relation.admits_below]

theorem stands_above_int (i j : Int) : stands .above (int i) (int j) = .ok (decide (j < i)) := by
  rw [stands_int, Relation.admits_above]

end Datum

namespace Matcher

theorem groupOf_int (i : Int) (n : Nat) : groupOf (.int i) n =
    .ok (if 0 ≤ i ∧ i ≤ n then some i.toNat else none) := by
  unfold groupOf
  rw [Datum.stands_below_int, Datum.stands_above_int]
  by_cases hbelow : i < 0
  · have : ¬ (0 ≤ i ∧ i ≤ n) := by omega
    simp [hbelow, this, Except.mapError, bind, Except.bind, pure, Except.pure]
  · by_cases habove : (n : Int) < i
    · have : ¬ (0 ≤ i ∧ i ≤ n) := by omega
      simp [hbelow, habove, this, Except.mapError, bind, Except.bind, pure, Except.pure]
    · have : 0 ≤ i ∧ i ≤ n := by omega
      simp [hbelow, habove, this, Except.mapError, bind, Except.bind, pure, Except.pure]

/-- What is taken from a text when the index is a number. -/
theorem extract_int {m : Matcher} {i : Int} (hi : m.index = .int i) (text : String) :
    m.extract (.text text) =
      match m.pattern.search text with
      | .error fault => .error (.search fault)
      | .ok none => .ok none
      | .ok (some found) =>
        .ok (if 0 ≤ i ∧ i ≤ m.pattern.groups then found.group? i.toNat else none) := by
  simp only [extract, hi, groupOf_int]
  cases m.pattern.search text with
  | error fault => rfl
  | ok result =>
    cases result with
    | none => rfl
    | some found =>
      by_cases hrange : 0 ≤ i ∧ i ≤ m.pattern.groups
      · simp only [hrange, and_self, if_true]
        rfl
      · simp only [hrange, if_false]
        rfl

end Matcher

namespace Rule

/-- The pattern is found, the group at the index exists and took part, and the comparison holds of
what it took. -/
structure Finds (r : Rule) (i : Int) (text : String) : Prop where
  inRange : 0 ≤ i ∧ i ≤ r.matcher.pattern.groups
  holds : ∃ found value, r.matcher.pattern.search text = .ok (some found) ∧
    found.group? i.toNat = some value ∧ r.matcher.comparison.judge (.text value) = .holds

theorem fires_iff {r : Rule} {i : Int} (hi : r.matcher.index = .int i) {d : Datum} :
    r.fires d = true ↔ ∃ text, d = .text text ∧ r.Finds i text := by
  unfold fires accepts
  constructor
  · intro h
    cases d with
    | text text =>
      refine ⟨text, rfl, ?_⟩
      rw [Matcher.extract_int hi] at h
      cases hsearch : r.matcher.pattern.search text with
      | error fault => simp [hsearch, Except.map] at h
      | ok result =>
        cases result with
        | none => simp [hsearch, Except.map, Matcher.judgeFound] at h
        | some found =>
          by_cases hrange : 0 ≤ i ∧ i ≤ r.matcher.pattern.groups
          · cases hgroup : found.group? i.toNat with
            | none => simp [hsearch, hrange, hgroup, Except.map, Matcher.judgeFound] at h
            | some value =>
              refine ⟨hrange, found, value, hsearch, hgroup, ?_⟩
              simp only [hsearch, hrange, and_self, if_true, hgroup, Except.map,
                Matcher.judgeFound] at h
              split at h
              · next hjudge => exact Except.ok.inj hjudge
              · cases h
          · simp [hsearch, hrange, Except.map, Matcher.judgeFound] at h
    | _ => simp [Matcher.extract, Except.map] at h
  · rintro ⟨text, rfl, hrange, found, value, hsearch, hgroup, hjudge⟩
    rw [Matcher.extract_int hi, hsearch]
    simp only [hrange, and_self, if_true, hgroup, Except.map, Matcher.judgeFound, hjudge]

end Rule

/-! ### Rules that never break -/

theorem Datum.toNumber_text_ne_tooLarge (s : String) : (text s).toNumber ≠ .error .tooLarge := by
  intro large
  simp only [toNumber] at large
  cases read : Number.readBinary64? s <;> simp [read, Option.elim] at large

theorem Comparison.judge_text_ne_tooLarge (c : Comparison) (s : String) :
    c.judge (.text s) ≠ .tooLarge := by
  cases c with
  | equals operand =>
    simp only [judge]
    split <;> exact nofun
  | threshold side operand limit =>
    cases limit with
    | none => exact nofun
    | some limit =>
      simp only [judge]
      cases read : (Datum.text s).toNumber with
      | error fault =>
        cases fault with
        | notNumber => exact nofun
        | tooLarge => exact absurd read (Datum.toNumber_text_ne_tooLarge s)
      | ok number =>
        simp only
        split <;> exact nofun

namespace Rule

/-- A rule comes to a verdict on a text: its index names a group of the pattern or none, a value is
what that group took in the match that was found, and only a value is compared. -/
structure Settles (r : Rule) (text : String) : Prop where
  judged : ∃ verdict, r.judge (.text text) = .ok verdict ∧ verdict ≠ .tooLarge
  inRange : ∃ group, Matcher.groupOf r.matcher.index r.matcher.pattern.groups = .ok group ∧
    ∀ g ∈ group, r.matcher.index = .int g ∧ g ≤ r.matcher.pattern.groups
  taken : ∀ value, r.matcher.extract (.text text) = .ok (some value) →
    ∃ found g, r.matcher.pattern.search text = .ok (some found) ∧
      Matcher.groupOf r.matcher.index r.matcher.pattern.groups = .ok (some g) ∧
      found.group? g = some value
  missing : r.matcher.extract (.text text) = .ok none → r.judge (.text text) = .ok .fails
  matched : r.judge (.text text) = .ok .holds ↔ ∃ i : Int, r.matcher.index = .int i ∧ r.Finds i text

variable {r : Rule} {i : Int} {text : String}

theorem judge_eq_holds : r.judge (.text text) = .ok .holds ↔ r.fires (.text text) = true := by
  unfold judge Matcher.judge fires accepts
  cases r.matcher.extract (.text text) with
  | error breakdown => simp [Except.map]
  | ok taken =>
    simp only [Except.map]
    cases r.matcher.judgeFound taken <;> simp

theorem exists_extract (hi : r.matcher.index = .int i)
    (searched : ∃ found, r.matcher.pattern.search text = .ok found) :
    ∃ taken, r.matcher.extract (.text text) = .ok taken := by
  obtain ⟨found, hfound⟩ := searched
  rw [Matcher.extract_int hi, hfound]
  cases found with
  | none => exact ⟨none, rfl⟩
  | some found => exact ⟨_, rfl⟩

theorem settles (hi : r.matcher.index = .int i)
    (searched : ∃ found, r.matcher.pattern.search text = .ok found) : r.Settles text := by
  have hgroup := Matcher.groupOf_int i r.matcher.pattern.groups
  rw [← hi] at hgroup
  obtain ⟨taken, htaken⟩ := exists_extract hi searched
  have hjudge : r.judge (.text text) = .ok (r.matcher.judgeFound taken) := by
    rw [judge, Matcher.judge, htaken]
    rfl
  refine ⟨⟨_, hjudge, ?_⟩, ⟨_, hgroup, ?_⟩, ?_, ?_, ?_⟩
  · cases taken with
    | none => exact nofun
    | some value => exact r.matcher.comparison.judge_text_ne_tooLarge value
  · intro g hg
    split at hg
    · next within =>
      obtain rfl : i.toNat = g := Option.some.inj hg
      have natural : (i.toNat : Int) = i := Int.toNat_of_nonneg within.1
      exact ⟨by rw [hi, natural], by omega⟩
    · cases hg
  · intro value hvalue
    obtain ⟨found, hfound⟩ := searched
    rw [Matcher.extract_int hi, hfound] at hvalue
    cases found with
    | none => cases hvalue
    | some found =>
      have same := Except.ok.inj hvalue
      split at same
      · next within => exact ⟨found, i.toNat, hfound, by rw [hgroup, if_pos within], same⟩
      · cases same
  · intro missing
    obtain rfl : taken = none := Except.ok.inj (htaken.symm.trans missing)
    exact hjudge
  · rw [judge_eq_holds, fires_iff hi]
    constructor
    · rintro ⟨_, same, finds⟩
      cases same
      exact ⟨i, hi, finds⟩
    · rintro ⟨j, hj, finds⟩
      obtain rfl : i = j := Datum.int.inj (hi.symm.trans hj)
      exact ⟨text, rfl, finds⟩

theorem Settles.ruleBroke_notMem (h : r.Settles text) (id : Datum) :
    .ruleBroke id ∉ r.notices (r.matcher.extract (.text text)) := by
  obtain ⟨verdict, hjudge, -⟩ := h.judged
  cases htaken : r.matcher.extract (.text text) with
  | error breakdown =>
    rw [judge, Matcher.judge, htaken] at hjudge
    cases hjudge
  | ok taken =>
    intro broke
    unfold notices at broke
    split at broke
    · next impossible => cases impossible
    · split at broke
      · simp at broke
      · cases broke
    · cases broke

end Rule

/-! ### All rules of a device -/

namespace Monitor

theorem body_of_text {m : Message} {text : String} (h : m.text = .text text) :
    body m = .text text := by
  unfold body
  rw [h]
  split
  · rfl
  · next empty =>
    have : text = "" := by simpa [Datum.isTruthy] using empty
    rw [this]

theorem ruleBroke_notMem_scan {rules : List Rule} {text : String}
    (settle : ∀ r ∈ rules, r.Settles text) (id : Datum) :
    .ruleBroke id ∉ (scan (.text text) rules).1 := by
  induction rules with
  | nil => exact nofun
  | cons r rest ih =>
    obtain ⟨hr, hrest⟩ := List.forall_mem_cons.mp settle
    have here := hr.ruleBroke_notMem id
    have later := ih hrest
    have hscan : (scan (.text text) (r :: rest)).1 =
        if r.accepts (r.matcher.extract (.text text)) then
          r.notices (r.matcher.extract (.text text))
        else r.notices (r.matcher.extract (.text text)) ++ (scan (.text text) rest).1 := by
      simp only [scan]
      split <;> rfl
    rw [hscan]
    split
    · exact here
    · intro told
      rcases List.mem_append.mp told with told | told
      · exact here told
      · exact later told

end Monitor

/-- Whatever number the index of a tag is, the rule of the tag comes to a verdict on every text that
it can be searched in, and so the classification of a message never hides a rule that broke. -/
theorem Tag.settles_of_compile {tags : List Tag} {rules : List Rule} {m : Message} {text : String}
    (compiled : ∀ r ∈ rules, ∃ t ∈ tags, t.compile = .ok r)
    (indexed : ∀ t ∈ tags, ∃ i : Int, t.condition.arrayIndex = .int i)
    (body : m.text = .text text)
    (searched : ∀ r ∈ rules, ∃ found, r.matcher.pattern.search text = .ok found) :
    (∀ r ∈ rules, r.Settles text) ∧
      ∀ id, .ruleBroke id ∉ (Monitor.scan (Monitor.body m) rules).1 := by
  have settle : ∀ r ∈ rules, r.Settles text := by
    intro r hr
    obtain ⟨t, ht, hcompiled⟩ := compiled r hr
    obtain ⟨i, hi⟩ := indexed t ht
    obtain ⟨-, hmatcher⟩ := compile_eq_ok.mp hcompiled
    obtain ⟨-, -, hindex⟩ := Condition.compile_eq_ok.mp hmatcher
    exact Rule.settles (hindex.trans hi) (searched r hr)
  refine ⟨settle, fun id => ?_⟩
  rw [Monitor.body_of_text body]
  exact Monitor.ruleBroke_notMem_scan settle id

/-- Temperatures that only one of two ways to match takes, some at an index beyond all groups. -/
def Tag.readings : List Tag :=
  let reading (type operand : String) (index : Int) : Tag :=
    ⟨.int 1, .int 2, .text "t", ⟨.text "t(\\d+)|none", .text type, .text operand, .int index⟩,
      .text "T", .text "high", .null, .null⟩
  [reading "<" "cold" 1, reading ">" "5" 1, reading "=" "" (-3), reading "=" "none" 1000000000000]

theorem Tag.settles_of_compile_readings :
    (readings.filterMap rule?).map (·.tag) = readings ∧
      (∀ r ∈ readings.filterMap rule?, r.Settles "none") ∧
      ∀ id, .ruleBroke id ∉ (Monitor.scan (.text "none") (readings.filterMap rule?)).1 := by
  have compiled : ∀ r ∈ readings.filterMap rule?, ∃ t ∈ readings, t.compile = .ok r := by
    intro r hr
    obtain ⟨t, ht, hcompiled⟩ := List.mem_filterMap.mp hr
    exact ⟨t, ht, rule?_eq_some.mp hcompiled⟩
  have indexed : ∀ t ∈ readings, ∃ i : Int, t.condition.arrayIndex = .int i := by simp [readings]
  have all : (readings.filterMap rule?).all
      fun r => (r.matcher.pattern.search "none").toOption.isSome := by decide +kernel
  have searched : ∀ r ∈ readings.filterMap rule?,
      ∃ found, r.matcher.pattern.search "none" = .ok found := by
    intro r hr
    have found := List.all_eq_true.mp all r hr
    cases hsearch : r.matcher.pattern.search "none" with
    | ok found => exact ⟨found, rfl⟩
    | error fault => simp [hsearch, Except.toOption] at found
  let m : Message := ⟨.int 2, .text "none", .null, .null, .null, .null⟩
  have settle := settles_of_compile (m := m) compiled indexed rfl searched
  exact ⟨by decide +kernel, settle⟩

end DeviceAlerts
