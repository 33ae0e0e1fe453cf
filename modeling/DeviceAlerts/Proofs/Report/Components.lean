import DeviceAlerts.Proofs.Report.Figures

/-! The component with the most messages. What the days count of each component adds up to what all
messages together have of it, and of components with equally many the first in the alphabet is
taken. -/

namespace DeviceAlerts.Report

open DeviceAlerts.Store DeviceAlerts.Time

/-! ### Totals -/

/-- The name in a row of a component. -/
def nameOf (row : Datum × Int) : String :=
  match row.1 with
  | .text name => name
  | _ => ""

theorem componentTotals_eq {days : List DailyVolume}
    (texts : ∀ row ∈ days.flatMap (·.components), row.1 = .text (nameOf row)) :
    componentTotals days =
      ((days.flatMap (·.components)).map nameOf).eraseDups.map fun name =>
        (.text name, (((days.flatMap (·.components)).filter fun row => nameOf row = name).map
          (·.2)).sum) := by
  rw [componentTotals, ← Table.foldl_total Datum.text_beq_text]
  exact List.foldl_ext _ _ _ fun totals row hrow => by rw [texts row hrow]

theorem sum_occurrences (names : List String) (name : String) :
    (((occurrences names).filter fun row => nameOf row = name).map (·.2)).sum =
      names.count name := by
  have filtered : (occurrences names).filter (fun row => nameOf row = name) =
      (names.eraseDups.filter fun other => other = name).map fun other =>
        (.text other, (names.count other : Int)) := by
    rw [occurrences, List.filter_map]
    rfl
  rw [filtered, List.filter_eq, (Table.nodup_eraseDups names).count]
  split
  · simp
  · next absent =>
    rw [List.mem_eraseDups] at absent
    simp [List.count_eq_zero_of_not_mem absent]

theorem sum_flatMap_occurrences {ι : Type} (part : ι → List String) (keys : List ι)
    (name : String) : (((keys.flatMap fun k => occurrences (part k)).filter fun row =>
      nameOf row = name).map (·.2)).sum = (keys.flatMap part).count name := by
  induction keys with
  | nil => rfl
  | cons k rest ih =>
    rw [List.flatMap_cons, List.flatMap_cons, List.filter_append, List.map_append, List.sum_append,
      ih, sum_occurrences, List.count_append]
    push_cast
    rfl

theorem nameOf_occurrences {ι : Type} (part : ι → List String) (keys : List ι) (name : String) :
    name ∈ (keys.flatMap fun k => occurrences (part k)).map nameOf ↔
      name ∈ keys.flatMap part := by
  simp [occurrences, nameOf]

/-! ### The busiest of several -/

/-- More messages come first, of equals the component that is first in the alphabet. -/
def rankOf (count : String → Int) (name : String) : Int ×ₗ String := toLex (-count name, name)

theorem busier_text (count : String → Int) (a b : String) :
    busier (.text a, count a) (.text b, count b) = .ok (decide (rankOf count a < rankOf count b)) :=
  Datum.keyBelow_int_lex (Datum.keyBelow_text a b) _ _

theorem busiest_ok (count : String → Int) (best : String) (rest : List String) :
    ∃ found ∈ best :: rest, busiest (.text best, count best)
        (rest.map fun name => (.text name, count name)) = .ok (.text found) ∧
      ∀ name ∈ best :: rest, rankOf count found ≤ rankOf count name := by
  induction rest generalizing best with
  | nil => exact ⟨best, List.mem_cons_self, rfl, by simp⟩
  | cons name rest ih =>
    rw [List.map_cons, busiest, busier_text]
    by_cases ahead : rankOf count name < rankOf count best
    · obtain ⟨found, member, hfound, bound⟩ := ih name
      refine ⟨found, List.mem_cons_of_mem _ member, ?_, ?_⟩
      · simpa [bind, Except.bind, ahead] using hfound
      · exact List.forall_mem_cons.mpr
          ⟨((List.forall_mem_cons.mp bound).1.trans ahead.le), bound⟩
    · obtain ⟨found, member, hfound, bound⟩ := ih best
      obtain ⟨first, others⟩ := List.forall_mem_cons.mp bound
      refine ⟨found, ?_, by simpa [bind, Except.bind, ahead] using hfound, ?_⟩
      · rcases List.mem_cons.mp member with rfl | member
        · exact List.mem_cons_self
        · exact List.mem_cons_of_mem _ (List.mem_cons_of_mem _ member)
      · exact List.forall_mem_cons.mpr ⟨first,
          List.forall_mem_cons.mpr ⟨first.trans (not_lt.mp ahead), others⟩⟩

/-- The one of several names that is ranked first, or nothing when there are none. -/
inductive Busiest (count : String → Int) (names : List String) : Option String → Prop
  | none (empty : names = []) : Busiest count names none
  | some {best : String} (member : best ∈ names)
      (first : ∀ name ∈ names, rankOf count best ≤ rankOf count name) :
      Busiest count names (some best)

theorem mostActive_busiest (count : String → Int) (names : List String) :
    ∃ found : Option String, mostActive (names.map fun name => (.text name, count name)) =
      .ok (found.elim .null .text) ∧ Busiest count names found := by
  cases names with
  | nil => exact ⟨none, rfl, .none rfl⟩
  | cons best rest =>
    obtain ⟨found, member, hfound, bound⟩ := busiest_ok count best rest
    exact ⟨some found, hfound, .some member bound⟩

/-- No two names share a rank. -/
theorem Busiest.unique {count : String → Int} {names others : List String}
    (same : ∀ name, name ∈ names ↔ name ∈ others) {a b : Option String}
    (ha : Busiest count names a) (hb : Busiest count others b) : a = b := by
  cases ha with
  | none empty =>
    cases hb with
    | none => rfl
    | some member => simp [empty] at same; exact absurd member (same _)
  | @some best member first =>
    cases hb with
    | none empty => simp [empty] at same; exact absurd member (same _)
    | @some other member' first' =>
      have equal := le_antisymm (first other ((same other).mpr member'))
        (first' best ((same best).mp member))
      have pairs : (-count best, best) = (-count other, other) := toLex.injective equal
      exact congrArg Option.some (Prod.ext_iff.mp pairs).2

theorem mostActive_ok {all names : List String} (same : ∀ name, name ∈ names ↔ name ∈ all) :
    ∃ found : Option String, mostActive (names.map fun name =>
        (.text name, (all.count name : Int))) = .ok (found.elim .null .text) ∧
      IsMostFrequent all found := by
  obtain ⟨found, hfound, busiest⟩ := mostActive_busiest (fun name => all.count name) names
  refine ⟨found, hfound, ?_⟩
  cases busiest with
  | none empty =>
    refine List.eq_nil_iff_forall_not_mem.mpr fun name hname => ?_
    simpa [empty] using (same name).mpr hname
  | some member first =>
    refine ⟨(same _).mp member, fun name hname => ?_⟩
    have order := first name ((same name).mpr hname)
    rw [rankOf, rankOf, Prod.Lex.toLex_le_toLex] at order
    rcases order with more | ⟨equal, first⟩
    · exact .inl (by simpa using more)
    · exact .inr ⟨by simpa using equal.symm, first⟩

namespace Daily

variable {arrivals : List Arrival} {days : List (Fin dayCount)} {slot : Fin dayCount → Slot}
  {volume : Fin dayCount → DailyVolume}

/-- The component with the most messages over the days is that of the messages. -/
theorem mostActive (h : Daily arrivals days slot volume) : ∃ found : Option String,
    Report.mostActive (componentTotals (days.map volume)) = .ok (found.elim .null .text) ∧
      IsMostFrequent (namedComponents arrivals) found := by
  have rows : ((days.map volume).flatMap (·.components)).Perm
      (days.flatMap fun d => occurrences (namedComponents (onDay arrivals d))) := by
    rw [List.flatMap_map]
    exact List.Perm.flatMap_left _ fun d _ => (h.sums d).components
  have texts : ∀ row ∈ (days.map volume).flatMap (·.components), row.1 = .text (nameOf row) := by
    intro row hrow
    obtain ⟨d, _, hd⟩ := List.mem_flatMap.mp (rows.mem_iff.mp hrow)
    obtain ⟨name, _, rfl⟩ := List.mem_map.mp hd
    rfl
  have named : (days.flatMap fun d => namedComponents (onDay arrivals d)).Perm
      (namedComponents arrivals) := by
    rw [← namedComponents_flatMap]
    exact namedComponents_perm h.shared
  have counts (name : String) : ((((days.map volume).flatMap (·.components)).filter fun row =>
      nameOf row = name).map (·.2)).sum = (namedComponents arrivals).count name := by
    rw [((rows.filter _).map _).sum_eq, sum_flatMap_occurrences, named.count_eq]
  simp only [componentTotals_eq texts, counts]
  refine mostActive_ok fun name => ?_
  rw [List.mem_eraseDups, (rows.map nameOf).mem_iff, nameOf_occurrences, named.mem_iff]

end Daily

end DeviceAlerts.Report
