import DeviceAlerts.Proofs.Number.Rounding
import DeviceAlerts.Proofs.Store.Volumes
import DeviceAlerts.Report.Row
import Mathlib.Data.Finset.Dedup
import Mathlib.Data.Finset.Sort
import Mathlib.Data.List.GetD
import Mathlib.Order.Bounds.Basic

/-! The figures of a row, said of the messages themselves. They are counted over daily volumes, but
what they say can be said without them. -/

namespace DeviceAlerts.Report

open DeviceAlerts.Number DeviceAlerts.Store DeviceAlerts.Time

/-! ### What is said of messages -/

/-- The days in UTC on which messages came in. -/
def activeDays (arrivals : List Arrival) : Finset (Fin dayCount) :=
  (arrivals.map Arrival.day).toFinset

def onDay (arrivals : List Arrival) (d : Fin dayCount) : List Arrival :=
  arrivals.filter fun a => a.day = d

/-- How many messages came in on each active day. -/
def dailyCounts (arrivals : List Arrival) : Multiset Nat :=
  (activeDays arrivals).val.map fun d => (onDay arrivals d).length

/-- The middle of several counts, or the mean of the two in the middle. -/
def middle (counts : Multiset Nat) : ℚ :=
  let sorted := counts.sort (· ≤ ·)
  ((sorted.getD ((sorted.length - 1) / 2) 0 : ℚ) + sorted.getD (sorted.length / 2) 0) / 2

/-- The gaps between instants that follow each other, in microseconds. -/
def gaps (instants : List Int) : List Int :=
  let sorted := instants.mergeSort (· ≤ ·)
  List.zipWith (fun before after => after - before) sorted sorted.tail

/-- The mean gap in seconds, where there is a gap. -/
def meanGap (instants : List Int) : Option Binary64 :=
  if gaps instants = [] then none
  else some ((Binary64.nearest ((gaps instants).sum / microsPerSecond)).div
    (Binary64.nearest (gaps instants).length))

/-- The name that comes most often, of equals the first in the alphabet. -/
def IsMostFrequent (names : List String) : Option String → Prop
  | none => names = []
  | some best => best ∈ names ∧ ∀ name ∈ names,
      names.count name < names.count best ∨ names.count name = names.count best ∧ best ≤ name

/-- Figures that are those of messages. The median is rounded only where there are more messages
than a number can count one by one. -/
structure FiguresOf (arrivals : List Arrival) (f : Figures) : Prop where
  activeDays : f.activeDays = (activeDays arrivals).card
  total : f.total = arrivals.length
  average : f.average =
    (Binary64.nearest (arrivals.length / (Report.activeDays arrivals).card)).roundPlaces 2
  greatest : IsGreatest ((fun d => ((onDay arrivals d).length : Int)) '' Report.activeDays arrivals)
    f.greatest
  median : f.median = Binary64.nearest (middle (dailyCounts arrivals))
  exactMedian : arrivals.length < 2 ^ 52 →
    f.median.value? = some (middle (dailyCounts arrivals))
  critical : f.critical = (criticalInstants arrivals).length
  greatestCritical : IsGreatest
    ((fun d => ((criticalInstants (onDay arrivals d)).length : Int)) '' Report.activeDays arrivals)
    f.greatestCritical
  greatestComponents : IsGreatest
    ((fun d => (namedComponents (onDay arrivals d)).toFinset.card) '' Report.activeDays arrivals)
    f.greatestComponents
  firstCritical : Datum.Extreme (· ≤ ·) (criticalInstants arrivals) f.firstCritical
  lastCritical : Datum.Extreme (· ≥ ·) (criticalInstants arrivals) f.lastCritical
  interval : f.interval = meanGap (criticalInstants arrivals)
  percentage : f.percentage = (((Binary64.nearest 100).mul
    (Binary64.nearest (criticalInstants arrivals).length)).div
      (Binary64.nearest arrivals.length)).roundPlaces 2

/-! ### Greatest values -/

theorem foldl_max_spec {α : Type} [LinearOrder α] (b : α) (xs : List α) :
    xs.foldl max b ∈ b :: xs ∧ ∀ x ∈ b :: xs, x ≤ xs.foldl max b := by
  induction xs generalizing b with
  | nil => simp
  | cons x rest ih =>
    obtain ⟨member, bound⟩ := ih (max b x)
    obtain ⟨first, others⟩ := List.forall_mem_cons.mp bound
    refine ⟨?_, ?_⟩
    · rcases List.mem_cons.mp member with same | member
      · rw [List.foldl_cons, same]
        rcases max_choice b x with h | h <;> simp [h]
      · exact List.mem_cons_of_mem _ (List.mem_cons_of_mem _ member)
    · exact List.forall_mem_cons.mpr ⟨(le_max_left b x).trans first,
        List.forall_mem_cons.mpr ⟨(le_max_right b x).trans first, others⟩⟩

theorem greatest_spec {xs : List Int} (some : xs ≠ []) :
    IsGreatest {x | x ∈ xs} (greatest xs) := by
  obtain ⟨n, rest, rfl⟩ := List.exists_cons_of_ne_nil some
  have start : greatest (n :: rest) = rest.foldl max n := by simp [greatest]
  obtain ⟨member, bound⟩ := foldl_max_spec n rest
  rw [start]
  exact ⟨member, fun x hx => bound x hx⟩

section Days

variable {days : List (Fin dayCount)} (some : days ≠ [])

include some

theorem isGreatest_greatest (f : Fin dayCount → Int) :
    IsGreatest (f '' {d | d ∈ days}) (greatest (days.map f)) := by
  have whole := greatest_spec (mt List.map_eq_nil_iff.mp some : days.map f ≠ [])
  have image : {x | x ∈ days.map f} = f '' {d | d ∈ days} := Set.ext fun x => List.mem_map
  rwa [image] at whole

theorem isGreatest_foldl_max (f : Fin dayCount → Nat) :
    IsGreatest (f '' {d | d ∈ days}) ((days.map f).foldl max 0) := by
  obtain ⟨member, bound⟩ := foldl_max_spec 0 (days.map f)
  obtain ⟨zero, all⟩ := List.forall_mem_cons.mp bound
  refine ⟨?_, fun _ ⟨d, hd, h⟩ => h ▸ all _ (List.mem_map_of_mem hd)⟩
  rcases List.mem_cons.mp member with none | member
  · obtain ⟨d, rest, rfl⟩ := List.exists_cons_of_ne_nil some
    have least := all (f d) (List.mem_map_of_mem List.mem_cons_self)
    exact ⟨d, List.mem_cons_self, by omega⟩
  · exact List.mem_map.mp member

end Days

/-! ### Gaps -/

/-- The gaps between instants add up to the span from the first to the last. -/
theorem sum_zipWith_sub (first : Int) (rest : List Int) :
    (List.zipWith (fun before after => after - before) (first :: rest) rest).sum =
      (first :: rest).getLast (List.cons_ne_nil _ _) - first := by
  induction rest generalizing first with
  | nil => simp
  | cons second rest ih =>
    rw [List.zipWith_cons_cons, List.sum_cons, ih, List.getLast_cons (List.cons_ne_nil _ _)]
    ring

theorem length_gaps (instants : List Int) : (gaps instants).length = instants.length - 1 := by
  simp [gaps]

theorem sum_gaps {instants : List Int} {first last : Int} (isFirst : first ∈ instants)
    (least : ∀ i ∈ instants, first ≤ i) (isLast : last ∈ instants)
    (most : ∀ i ∈ instants, last ≥ i) : (gaps instants).sum = last - first := by
  have mem (i : Int) : i ∈ instants.mergeSort (· ≤ ·) ↔ i ∈ instants :=
    (List.mergeSort_perm instants _).mem_iff
  have sorted : (instants.mergeSort (· ≤ ·)).Pairwise (· ≤ ·) :=
    Sorting.pairwise_mergeSort_key id instants
  rw [gaps]
  generalize instants.mergeSort (· ≤ ·) = xs at mem sorted
  cases xs with
  | nil => exact absurd ((mem first).mpr isFirst) List.not_mem_nil
  | cons head rest =>
    have atFirst : head = first := by
      refine le_antisymm ?_ (least head ((mem head).mp List.mem_cons_self))
      rcases List.mem_cons.mp ((mem first).mpr isFirst) with same | later
      · exact same.ge
      · exact (List.pairwise_cons.mp sorted).1 first later
    have atLast : (head :: rest).getLast (List.cons_ne_nil _ _) = last := by
      refine le_antisymm (most _ ((mem _).mp (List.getLast_mem _))) ?_
      exact sorted.rel_getLast ((mem last).mpr isLast)
    rw [List.tail_cons, sum_zipWith_sub, atLast, atFirst]

/-! ### Medians -/

theorem dailyCounts_eq {arrivals : List Arrival} {days : List (Fin dayCount)}
    (nodup : days.Nodup) (same : ∀ d, d ∈ days ↔ d ∈ activeDays arrivals) :
    dailyCounts arrivals = ↑(days.map fun d => (onDay arrivals d).length) := by
  have h : activeDays arrivals = days.toFinset := by
    ext d
    rw [List.mem_toFinset, same]
  rw [dailyCounts, h, List.toFinset_val, nodup.dedup]
  rfl

theorem getD_mergeSort_lt {counts : List Nat} {bound : Nat} (below : ∀ n ∈ counts, n < bound)
    (positive : 0 < bound) (i : Nat) : (counts.mergeSort (· ≤ ·)).getD i 0 < bound := by
  rcases Nat.lt_or_ge i (counts.mergeSort (· ≤ ·)).length with inside | outside
  · rw [List.getD_eq_getElem _ _ inside]
    exact below _ ((List.mergeSort_perm counts _).mem_iff.mp (List.getElem_mem inside))
  · rwa [List.getD_eq_default _ _ outside]

/-- The middle of counts that a number can count one by one is a number. -/
theorem value?_middle {counts : List Nat} (below : ∀ n ∈ counts, n < 2 ^ 52) :
    (Binary64.nearest (middle counts)).value? = some (middle counts) := by
  have within := getD_mergeSort_lt below (by decide)
  rw [middle, Multiset.coe_sort]
  generalize (counts.mergeSort (· ≤ ·)) = xs at within
  have value := @Binary64.value?_nearest
    (xs.getD ((xs.length - 1) / 2) 0 + xs.getD (xs.length / 2) 0) 1
    (by have := within ((xs.length - 1) / 2); have := within (xs.length / 2); omega) (by decide)
  push_cast at value
  rwa [pow_one] at value

theorem median_ok {counts : List Nat} {bound : Nat} (small : bound ≤ 1022)
    (below : ∀ n ∈ counts, n < 2 ^ bound) :
    median (counts.map Int.ofNat) = .ok (Binary64.nearest (middle counts)) := by
  have sorted : (counts.map Int.ofNat).mergeSort (· ≤ ·) =
      (counts.mergeSort (· ≤ ·)).map Int.ofNat :=
    (List.map_mergeSort fun a _ b _ => by simp).symm
  have within := getD_mergeSort_lt below (by positivity)
  rw [median, middle, sorted, Multiset.coe_sort]
  generalize counts.mergeSort (· ≤ ·) = xs at within
  have image (i : Nat) : (xs.map Int.ofNat).getD i 0 = (xs.getD i 0 : Int) :=
    List.getD_map xs 0 Int.ofNat
  simp only [List.length_map, image]
  split
  · next odd =>
    have middle : (xs.length - 1) / 2 = xs.length / 2 := by omega
    have value : ((xs.getD (xs.length / 2) 0 : ℚ) + xs.getD (xs.length / 2) 0) / 2 =
        (xs.getD (xs.length / 2) 0 : Int) := by
      push_cast
      ring
    rw [middle, value]
    exact Binary64.ofIntChecked_ok (by omega) (within _)
  · next even =>
    have middle : (xs.length - 1) / 2 = xs.length / 2 - 1 := by omega
    have small' : xs.getD (xs.length / 2 - 1) 0 + xs.getD (xs.length / 2) 0 < 2 ^ (bound + 1) := by
      have := within (xs.length / 2 - 1)
      have := within (xs.length / 2)
      rw [Nat.pow_succ]
      omega
    rw [middle]
    have h := @Binary64.ofQuotientChecked_ok (bound + 1) (by omega)
      (xs.getD (xs.length / 2 - 1) 0 + xs.getD (xs.length / 2) 0 : Nat) 2 two_pos small'
    push_cast at h
    exact h

/-! ### Figures of days -/

theorem sumCounts_map {ι : Type} {count : ι → Int} {size : ι → Nat} (keys : List ι)
    (h : ∀ k, count k = size k) : sumCounts (keys.map count) = (keys.map size).sum := by
  induction keys with
  | nil => rfl
  | cons k rest ih =>
    rw [List.map_cons, List.map_cons, List.sum_cons, sumCounts, List.foldr_cons, h k,
      Nat.cast_add, ← ih]
    rfl

/-- Volumes of the days on which messages came in. -/
structure Daily (arrivals : List Arrival) (days : List (Fin dayCount))
    (slot : Fin dayCount → Slot) (volume : Fin dayCount → DailyVolume) : Prop where
  nodup : days.Nodup
  same : ∀ d, d ∈ days ↔ d ∈ activeDays arrivals
  sums : ∀ d, SumsUp (onDay arrivals d) (slot d) (volume d)

namespace Daily

variable {arrivals : List Arrival} {days : List (Fin dayCount)} {slot : Fin dayCount → Slot}
  {volume : Fin dayCount → DailyVolume} (h : Daily arrivals days slot volume)

include h

/-- The days share out the messages. -/
theorem shared : (days.flatMap (onDay arrivals)).Perm arrivals := by
  have perm := flatMap_filter_perm Arrival.day arrivals h.nodup
  have all : (arrivals.filter fun a => a.day ∈ days) = arrivals :=
    List.filter_eq_self.mpr fun a ha => decide_eq_true
      ((h.same _).mpr (List.mem_toFinset.mpr (List.mem_map_of_mem ha)))
  rwa [all] at perm

theorem total : sumCounts ((days.map volume).map (·.total)) = arrivals.length := by
  rw [← h.shared.length_eq, List.length_flatMap, List.map_map, sumCounts_map]
  exact fun d => (h.sums d).total

theorem critical : sumCounts ((days.map volume).map (·.critical)) =
    (criticalInstants arrivals).length := by
  rw [← (criticalInstants_perm h.shared).length_eq, criticalInstants_flatMap,
    List.length_flatMap, List.map_map, sumCounts_map]
  exact fun d => (h.sums d).critical

/-- An extreme of the extremes of the days is one of all critical messages. -/
theorem extreme {pick : List Datum → Except Datum.Misuse (Option Datum)}
    {before : Int → Int → Prop} [IsTrans Int before]
    (picks : ∀ moments : List Moment, (∀ m ∈ moments, m.isPlaced = true) → ∃ found,
      pick (moments.map .moment) = .ok found ∧
        Datum.Extreme before (moments.map Moment.instant) (found.getD .null))
    {value : DailyVolume → Datum}
    (extremes : ∀ d, Datum.Extreme before (criticalInstants (onDay arrivals d))
      (value (volume d))) :
    ∃ found, pick (given ((days.map volume).map value)) = .ok found ∧
      Datum.Extreme before (criticalInstants arrivals) (found.getD .null) := by
  have parts : List.Forall₂ (Datum.Extreme before)
      (days.map fun d => criticalInstants (onDay arrivals d)) ((days.map volume).map value) := by
    rw [List.map_map, List.forall₂_map_left_iff, List.forall₂_map_right_iff, List.forall₂_same]
    exact fun d _ => extremes d
  obtain ⟨moments, hmoments, placed, together⟩ := Datum.Extreme.of_parts parts
  obtain ⟨found, hfound, isFound⟩ := picks moments placed
  rw [← List.flatMap_def, ← criticalInstants_flatMap] at together
  exact ⟨found, by rw [given, hmoments, hfound],
    (together _ isFound).perm (criticalInstants_perm h.shared)⟩

theorem first : ∃ found, Datum.least? (given ((days.map volume).map (·.firstCritical))) =
      .ok found ∧ Datum.Extreme (· ≤ ·) (criticalInstants arrivals) (found.getD .null) :=
  h.extreme (fun _ => Datum.extreme_least?) fun d => (h.sums d).firstCritical

theorem last : ∃ found, Datum.greatest? (given ((days.map volume).map (·.lastCritical))) =
      .ok found ∧ Datum.Extreme (· ≥ ·) (criticalInstants arrivals) (found.getD .null) :=
  h.extreme (fun _ => Datum.extreme_greatest?) fun d => (h.sums d).lastCritical

end Daily

/-- The mean gap between critical messages, from the first and the last of them. -/
theorem interval?_ok {instants : List Int} {first last : Datum} {bound : Nat}
    (small : bound ≤ 1023) (fits : instants.length < 2 ^ bound)
    (isFirst : Datum.Extreme (· ≤ ·) instants first)
    (isLast : Datum.Extreme (· ≥ ·) instants last) :
    interval? first last instants.length = .ok (meanGap instants) := by
  cases isFirst with
  | none empty => simp [interval?, meanGap, gaps, empty]
  | @some m placed member least =>
    cases isLast with
    | none empty => simp [empty] at member
    | @some n placed' member' most =>
      have sum := sum_gaps member least member' most
      have length := length_gaps instants
      have comparable : m.isComparable n = true := by simp [Moment.isComparable, placed, placed']
      simp only [interval?, secondsBetween, comparable, if_true]
      rw [meanGap]
      by_cases several : 1 < (instants.length : Int)
      · have count : ((instants.length : Int) - 1) = (gaps instants).length := by omega
        have gap : gaps instants ≠ [] := List.ne_nil_of_length_pos (by omega)
        have checked := @Binary64.ofIntChecked_ok bound small (gaps instants).length (by omega)
        rw [if_pos several, if_neg gap, sum, count, checked,
          Binary64.ofQuotient_eq_nearest _ (by decide : 0 < microsPerSecond)]
        push_cast
        rfl
      · have none : gaps instants = [] := List.eq_nil_of_length_eq_zero (by omega)
        rw [if_neg several, if_pos none]

theorem percentage_ok {critical total bound : Nat} (small : bound ≤ 1023) (some : total ≠ 0)
    (fits : critical < 2 ^ bound) (fits' : total < 2 ^ bound) :
    percentage critical total = .ok ((((Binary64.nearest 100).mul
      (Binary64.nearest critical)).div (Binary64.nearest total)).roundPlaces 2) := by
  have hcritical := @Binary64.ofIntChecked_ok bound small critical fits
  have htotal := @Binary64.ofIntChecked_ok bound small total fits'
  have hundred := Binary64.ofInt_eq_nearest 100
  push_cast at hcritical htotal hundred
  have positive : (total : Int) ≠ 0 := by exact_mod_cast some
  simp only [percentage, if_neg positive, hcritical, htotal, hundred]
  rfl

/-- Figures are made out when all their parts are. -/
theorem figures_eq_ok {days : List DailyVolume} {f : Figures} : figures days = .ok f ↔
    ∃ first last interval average middle percent,
      Datum.least? (given (days.map (·.firstCritical))) = .ok first ∧
      Datum.greatest? (given (days.map (·.lastCritical))) = .ok last ∧
      interval? (first.getD .null) (last.getD .null) (sumCounts (days.map (·.critical))) =
        .ok interval ∧
      Binary64.ofQuotientChecked (sumCounts (days.map (·.total))) days.length = .ok average ∧
      median (days.map (·.total)) = .ok middle ∧
      percentage (sumCounts (days.map (·.critical))) (sumCounts (days.map (·.total))) =
        .ok percent ∧
      f = {
        activeDays := days.length
        total := sumCounts (days.map (·.total))
        average := average.roundPlaces 2
        greatest := greatest (days.map (·.total))
        median := middle
        critical := sumCounts (days.map (·.critical))
        greatestCritical := greatest (days.map (·.critical))
        greatestComponents := (days.map (·.components.length)).foldl max 0
        firstCritical := first.getD .null
        lastCritical := last.getD .null
        interval
        percentage := percent } := by
  constructor
  · intro run
    simp only [figures] at run
    obtain ⟨first, hfirst, run⟩ := bind_eq_ok.mp run
    obtain ⟨last, hlast, run⟩ := bind_eq_ok.mp run
    obtain ⟨interval, hinterval, run⟩ := bind_eq_ok.mp run
    obtain ⟨average, haverage, run⟩ := bind_eq_ok.mp run
    obtain ⟨middle, hmiddle, run⟩ := bind_eq_ok.mp run
    obtain ⟨percent, hpercent, run⟩ := bind_eq_ok.mp run
    exact ⟨first, last, interval, average, middle, percent, mapError_eq_ok.mp hfirst,
      mapError_eq_ok.mp hlast, hinterval, mapError_eq_ok.mp haverage, mapError_eq_ok.mp hmiddle,
      mapError_eq_ok.mp hpercent, (Except.ok.inj run).symm⟩
  · rintro ⟨first, last, interval, average, middle, percent, hfirst, hlast, hinterval, haverage,
      hmiddle, hpercent, rfl⟩
    simp only [figures, hfirst, hlast, hinterval, haverage, hmiddle, hpercent, bind, Except.bind,
      Except.mapError]
    rfl

theorem length_occurrences (names : List String) :
    (occurrences names).length = names.toFinset.card := by
  rw [occurrences, List.length_map, Table.length_eraseDups]

namespace Daily

variable {arrivals : List Arrival} {days : List (Fin dayCount)} {slot : Fin dayCount → Slot}
  {volume : Fin dayCount → DailyVolume}

/-- The figures counted over the days are those of the messages. -/
theorem figures_ok (h : Daily arrivals days slot volume) (some : days ≠ []) {bound : Nat}
    (small : bound ≤ 1022) (fits : arrivals.length < 2 ^ bound) :
    ∃ f, figures (days.map volume) = .ok f ∧ FiguresOf arrivals f := by
  obtain ⟨first, hfirst, isFirst⟩ := h.first
  obtain ⟨last, hlast, isLast⟩ := h.last
  have activeDays : activeDays arrivals = days.toFinset := by
    ext d
    rw [List.mem_toFinset, h.same]
  have members : (↑(Report.activeDays arrivals) : Set (Fin dayCount)) = {d | d ∈ days} := by
    ext d
    simp [activeDays]
  have card : (Report.activeDays arrivals).card = days.length := by
    rw [activeDays, List.toFinset_card_of_nodup h.nodup]
  have totals : (days.map volume).map (·.total) =
      (days.map fun d => (onDay arrivals d).length).map Int.ofNat := by
    rw [List.map_map, List.map_map]
    exact List.map_congr_left fun d _ => (h.sums d).total
  have criticals : (days.map volume).map (·.critical) =
      days.map fun d => ((criticalInstants (onDay arrivals d)).length : Int) := by
    rw [List.map_map]
    exact List.map_congr_left fun d _ => (h.sums d).critical
  have components : (days.map volume).map (·.components.length) =
      days.map fun d => (namedComponents (onDay arrivals d)).toFinset.card := by
    rw [List.map_map]
    refine List.map_congr_left fun d _ => ?_
    rw [← length_occurrences]
    exact (h.sums d).components.length_eq
  have fewer : (criticalInstants arrivals).length < 2 ^ bound :=
    ((List.length_map _).trans_le (List.length_filter_le _ _)).trans_lt fits
  have nonempty : arrivals.length ≠ 0 := by
    intro none
    obtain ⟨d, hd⟩ := List.exists_mem_of_ne_nil days some
    have hactive := (h.same d).mp hd
    rw [List.eq_nil_of_length_eq_zero none] at hactive
    simp [Report.activeDays] at hactive
  have interval := interval?_ok (by omega) fewer isFirst isLast
  have average := @Binary64.ofQuotientChecked_ok bound (by omega) arrivals.length days.length
    (List.length_pos_of_ne_nil some) fits
  have median := @median_ok (days.map fun d => (onDay arrivals d).length) bound small
    (List.forall_mem_map.mpr fun d _ => (List.length_filter_le _ _).trans_lt fits)
  have percentage := percentage_ok (show bound ≤ 1023 by omega) nonempty fewer fits
  push_cast at average
  have total := h.total
  have critical := h.critical
  rw [totals] at total
  rw [criticals] at critical
  have run : figures (days.map volume) = .ok
      { activeDays := days.length
        total := arrivals.length
        average := (Binary64.nearest (arrivals.length / days.length)).roundPlaces 2
        greatest := greatest ((days.map fun d => (onDay arrivals d).length).map Int.ofNat)
        median := Binary64.nearest (middle (days.map fun d => (onDay arrivals d).length))
        critical := (criticalInstants arrivals).length
        greatestCritical := greatest
          (days.map fun d => ((criticalInstants (onDay arrivals d)).length : Int))
        greatestComponents :=
          (days.map fun d => (namedComponents (onDay arrivals d)).toFinset.card).foldl max 0
        firstCritical := first.getD .null
        lastCritical := last.getD .null
        interval := meanGap (criticalInstants arrivals)
        percentage := (((Binary64.nearest 100).mul
          (Binary64.nearest (criticalInstants arrivals).length)).div
            (Binary64.nearest arrivals.length)).roundPlaces 2 } := by
    simp only [figures, hfirst, hlast, totals, criticals, components, total, critical, interval,
      List.length_map, average, median, percentage, bind, Except.bind, Except.mapError]
    rfl
  have counts := dailyCounts_eq h.nodup h.same
  refine ⟨_, run, card.symm, rfl, by rw [card], ?_, by rw [counts], fun few => ?_, rfl, ?_, ?_,
    isFirst, isLast, rfl, rfl⟩
  · rw [members, List.map_map]
    exact isGreatest_greatest some _
  · rw [counts]
    exact value?_middle (List.forall_mem_map.mpr fun d _ =>
      (List.length_filter_le _ _).trans_lt few)
  · rw [members]
    exact isGreatest_greatest some _
  · rw [members]
    exact isGreatest_foldl_max some _

end Daily

end DeviceAlerts.Report
