import DeviceAlerts.Proofs.Report.Counts
import Mathlib.Control.Basic

/-! Reports of the same days in another order. Days may come in any order, and so may the components
of each; the rows, their order and their ranks stay the same. Only of moments that are the same
instant on different clocks another one may be told. -/

namespace DeviceAlerts.Report

open DeviceAlerts.Form DeviceAlerts.Number DeviceAlerts.Time

/-- The same day with its components in another order. -/
structure DayCount.Same (a b : DayCount) : Prop where
  rest : b = { a with components := b.components }
  components : a.components.Perm b.components

/-- The same days in another order, each of them with its components in any order. -/
def Reordered (days others : List DayCount) : Prop :=
  ∃ mid, days.Perm mid ∧ List.Forall₂ DayCount.Same mid others

namespace DayCount.Same

theorem symm {a b : DayCount} (h : a.Same b) : b.Same a where
  rest := by rw [h.rest]
  components := h.components.symm

/-- What does not look at the components does not change. -/
theorem eq {α : Type} {f : DayCount → α} (blind : ∀ d components, f { d with components } = f d)
    {a b : DayCount} (h : a.Same b) : f a = f b := by
  rw [h.rest]
  exact (blind a _).symm

end DayCount.Same

namespace Reordered

variable {days others : List DayCount} (h : Reordered days others)

include h

theorem symm : Reordered others days := by
  obtain ⟨mid, perm, same⟩ := h
  -- undone from the end, the components come back before the days
  have swapped : Relation.Comp (List.Forall₂ DayCount.Same) List.Perm others days :=
    ⟨mid, same.flip.imp fun _ _ h => h.symm, perm.symm⟩
  rwa [List.forall₂_comp_perm_eq_perm_comp_forall₂] at swapped

theorem map_of_same {α : Type} {f : DayCount → α} (equal : ∀ a b : DayCount, a.Same b → f a = f b) :
    (days.map f).Perm (others.map f) := by
  obtain ⟨mid, perm, same⟩ := h
  have related : List.Forall₂ (fun a b => f a = f b) mid others := same.imp equal
  have maps : mid.map f = others.map f := by
    rwa [← List.forall₂_eq_eq_eq, List.forall₂_map_left_iff, List.forall₂_map_right_iff]
  exact maps ▸ perm.map f

theorem map {α : Type} {f : DayCount → α} (blind : ∀ d components, f { d with components } = f d) :
    (days.map f).Perm (others.map f) :=
  h.map_of_same fun _ _ same => same.eq blind

theorem filter {p : DayCount → Bool} (blind : ∀ d components, p { d with components } = p d) :
    Reordered (days.filter p) (others.filter p) := by
  obtain ⟨mid, perm, same⟩ := h
  exact ⟨mid.filter p, perm.filter p,
    List.rel_filter (fun _ _ h => Iff.of_eq (congrArg (· = true) (h.eq blind))) same⟩

/-- What is told of the days is the same, in another order. -/
theorem values {α : Type} (value : DailyVolume → α)
    (blind : ∀ (d : DayCount) components,
      value ({ d with components } : DayCount).volume = value d.volume) :
    ((days.map DayCount.volume).map value).Perm ((others.map DayCount.volume).map value) := by
  rw [List.map_map, List.map_map]
  exact h.map blind

theorem moments (moment : DayCount → Option Moment)
    (blind : ∀ d components, moment { d with components } = moment d) :
    (days.filterMap moment).Perm (others.filterMap moment) := by
  have perm := (h.map blind).filterMap id
  rwa [List.filterMap_map, List.filterMap_map] at perm

theorem entries : (entries days).Perm (entries others) := by
  obtain ⟨mid, perm, same⟩ := h
  refine (perm.flatMap_right _).trans ?_
  clear perm
  induction same with
  | nil => exact List.Perm.nil
  | cons first _ ih => exact first.components.append ih

/-! ### Topics -/

theorem topics : (topics days).Perm (topics others) :=
  Table.perm_eraseDups (h.map fun _ _ => rfl)

theorem daysOn (t : Topic) : Reordered (daysOn days t) (daysOn others t) :=
  h.filter fun _ _ => rfl

theorem totalOn (t : Topic) : totalOn days t = totalOn others t :=
  ((h.daysOn t).map fun _ _ => rfl).sum_eq

theorem totals : totals days = totals others := by
  simp only [Report.totals, h.totalOn]
  exact List.toFinset_eq_of_perm _ _ (h.topics.map _)

theorem listed (minimum : Int) : listed days minimum = listed others minimum := by
  simp only [Report.listed, listing, h.totalOn]
  exact Sorting.mergeSort_key_congr (placeBy_injective _) (h.topics.filter _)

/-! ### Components -/

theorem componentTotal (name : String) : componentTotal days name = componentTotal others name :=
  ((h.entries.filter _).map _).sum_eq

theorem mostActive : mostActive (componentTotals (days.map DayCount.volume)) =
    mostActive (componentTotals (others.map DayCount.volume)) := by
  obtain ⟨found, hfound, busiest⟩ := mostActive_volume days
  obtain ⟨other, hother, busiest'⟩ := mostActive_volume others
  rw [← funext h.componentTotal] at busiest'
  have same : found = other := busiest.unique (fun name => by
    rw [List.mem_eraseDups, List.mem_eraseDups, (h.entries.map _).mem_iff]) busiest'
  rw [hfound, hother, same]

end Reordered

/-! ### Counts -/

theorem greatest_perm {xs ys : List Int} (perm : xs.Perm ys) : greatest xs = greatest ys := by
  by_cases none : xs = []
  · have empty : ys = [] := List.nil_perm.mp (none ▸ perm)
    rw [none, empty]
  · have some : ys ≠ [] := fun empty => none (List.perm_nil.mp (empty ▸ perm))
    have same : {x | x ∈ xs} = {x | x ∈ ys} := Set.ext fun x => perm.mem_iff
    exact (greatest_spec none).unique (same ▸ greatest_spec some)

theorem sumCounts_perm {xs ys : List Int} (perm : xs.Perm ys) : sumCounts xs = sumCounts ys :=
  perm.sum_eq

theorem median_perm {xs ys : List Int} (perm : xs.Perm ys) : median xs = median ys := by
  have sorted : xs.mergeSort (· ≤ ·) = ys.mergeSort (· ≤ ·) :=
    Sorting.mergeSort_key_congr Function.injective_id perm
  rw [median, median, sorted]

/-- The mean gap is told between instants. -/
theorem interval?_congr {first last other later : Option Moment}
    (begin : Option.Rel Datum.SameMoment first other)
    (stop : Option.Rel Datum.SameMoment last later) (count : Int) :
    interval? ((first.map .moment).getD .null) ((last.map .moment).getD .null) count =
      interval? ((other.map .moment).getD .null) ((later.map .moment).getD .null) count := by
  cases begin with
  | none => rfl
  | @some m n begin =>
    cases stop with
    | none => rfl
    | @some k l stop =>
      have seconds : secondsBetween m k = secondsBetween n l := by
        rw [secondsBetween, secondsBetween, Moment.isComparable, Moment.isComparable, begin.1,
          begin.2, stop.1, stop.2]
      simp only [Option.map_some, Option.getD_some, interval?, seconds]

/-! ### Rows that say the same -/

/-- Figures that differ at most in the clocks of their moments. -/
structure Figures.Alike (f g : Figures) : Prop where
  rest : g = { f with firstCritical := g.firstCritical, lastCritical := g.lastCritical }
  first : (f.firstCritical == g.firstCritical) = true
  last : (f.lastCritical == g.lastCritical) = true

structure Summary.Alike (s r : Summary) : Prop where
  rest : r = { s with figures := r.figures }
  figures : s.figures.Alike r.figures

/-- Rows that differ at most in the clocks of their moments. -/
structure Row.Alike (r s : Row) : Prop where
  rest : s = { r with figures := s.figures }
  figures : r.figures.Alike s.figures

theorem beq_of_rel {a b : Option Moment} (h : Option.Rel Datum.SameMoment a b) :
    ((a.map Datum.moment).getD .null == (b.map Datum.moment).getD .null) = true := by
  cases h with
  | none => rfl
  | some same => exact Datum.moment_beq_iff.mpr same

theorem Reordered.figures {days others : List DayCount} (h : Reordered days others) {f : Figures}
    (run : figures (days.map DayCount.volume) = .ok f) :
    ∃ g, Report.figures (others.map DayCount.volume) = .ok g ∧ f.Alike g := by
  obtain ⟨first, last, interval, average, middle, percent, hfirst, hlast, hinterval, haverage,
    hmiddle, hpercent, rfl⟩ := figures_eq_ok.mp run
  rw [given_moments days (·.firstCritical) DayCount.firstCritical fun _ => rfl] at hfirst
  rw [given_moments days (·.lastCritical) DayCount.lastCritical fun _ => rfl] at hlast
  obtain ⟨m, n, rfl, hfirst', begin⟩ := Datum.picks_least.perm
    (h.moments DayCount.firstCritical fun _ _ => rfl) hfirst
  obtain ⟨k, l, rfl, hlast', stop⟩ := Datum.picks_greatest.perm
    (h.moments DayCount.lastCritical fun _ _ => rfl) hlast
  rw [← given_moments others (·.firstCritical) DayCount.firstCritical fun _ => rfl] at hfirst'
  rw [← given_moments others (·.lastCritical) DayCount.lastCritical fun _ => rfl] at hlast'
  have totals := h.values (·.total) fun _ _ => rfl
  have criticals := h.values (·.critical) fun _ _ => rfl
  have lengths : ((days.map DayCount.volume).map (·.components.length)).Perm
      ((others.map DayCount.volume).map (·.components.length)) := by
    rw [List.map_map, List.map_map]
    exact h.map_of_same fun a b same => by simpa [DayCount.volume] using same.components.length_eq
  have count : (days.map DayCount.volume).length = (others.map DayCount.volume).length := by
    simpa using totals.length_eq
  rw [sumCounts_perm criticals, sumCounts_perm totals] at hpercent
  rw [sumCounts_perm criticals, interval?_congr begin stop] at hinterval
  rw [sumCounts_perm totals, count] at haverage
  rw [median_perm totals] at hmiddle
  refine ⟨_, figures_eq_ok.mpr ⟨_, _, interval, average, middle, percent, hfirst', hlast',
    hinterval, haverage, hmiddle, hpercent, rfl⟩, ?_, beq_of_rel begin, beq_of_rel stop⟩
  rw [sumCounts_perm criticals, sumCounts_perm totals, count, greatest_perm totals,
    greatest_perm criticals, lengths.foldl_op_eq]

theorem Reordered.summary {days others : List DayCount} (h : Reordered days others)
    (describe : Datum → Device) {t : Topic} {s : Summary}
    (run : summaryOn describe days t = .ok s) :
    ∃ r, summaryOn describe others t = .ok r ∧ s.Alike r := by
  obtain ⟨component, f, hcomponent, hf, rfl⟩ := summarize_eq_ok.mp run
  rw [(h.daysOn t).mostActive] at hcomponent
  obtain ⟨g, hg, alike⟩ := (h.daysOn t).figures hf
  exact ⟨_, summarize_eq_ok.mpr ⟨component, g, hcomponent, hg, rfl⟩, rfl, alike⟩

/-! ### Checks -/

instance : LawfulApplicative Checked where
  map_const := rfl
  id_map x := by cases x <;> rfl
  seqLeft_eq _ _ := rfl
  seqRight_eq _ _ := rfl
  pure_seq f x := by cases x <;> rfl
  map_pure f x := rfl
  seq_pure f x := by cases f <;> rfl
  seq_assoc x g f := by
    cases f <;> cases g <;> cases x <;> first | rfl | exact congrArg Checked.flawed (by simp)

/-- A check does not look at moments. -/
theorem Summary.Alike.check {s r : Summary} (h : s.Alike r) (rank : Nat) :
    r.check rank = (fun row => { row with figures := r.figures }) <$> s.check rank := by
  obtain ⟨rest, figures⟩ := h
  rw [rest, figures.rest]
  simp only [Summary.check, map_seq, Functor.map_map]
  rfl

theorem figures_of_check {s : Summary} {rank : Nat} {row : Row} (h : s.check rank = .sound row) :
    row.figures = s.figures := by
  have told : s.check rank = (fun row => { row with figures := s.figures }) <$> s.check rank := by
    simp only [Summary.check, map_seq, Functor.map_map]
    rfl
  rw [h] at told
  exact congrArg Row.figures (Checked.sound.inj told)

theorem Summary.Alike.row {s r : Summary} (h : s.Alike r) {rank : Nat} {row : Row}
    (run : (s.check rank).toExcept = .ok row) :
    ∃ other, (r.check rank).toExcept = .ok other ∧ row.Alike other := by
  rw [h.check]
  cases checked : s.check rank with
  | flawed flaws => rw [checked] at run; cases run
  | sound value =>
    rw [checked] at run
    cases run
    exact ⟨_, rfl, rfl, (figures_of_check checked).symm ▸ h.figures⟩

/-! ### The report -/

/-- Two reports with the same rows in the same order, or two that cannot be made out. -/
def Agree : Except Failure (List Row) → Except Failure (List Row) → Prop
  | .ok rows, .ok others => List.Forall₂ Row.Alike rows others
  | .error _, .error _ => True
  | _, _ => False

theorem Reordered.rows {days others : List DayCount} (h : Reordered days others)
    (describe : Datum → Device) (minimum : Int) {found : List Row}
    (run : rows (days.map DayCount.volume) describe (.int minimum) = .ok found) :
    ∃ told, Report.rows (others.map DayCount.volume) describe (.int minimum) = .ok told ∧
      List.Forall₂ Row.Alike found told := by
  obtain ⟨all, hall, -⟩ := bind_eq_ok.mp run
  obtain ⟨summary, hsummary⟩ := exists_summaries hall
  have each : ∀ t ∈ Report.topics days, ∃ r,
      summaryOn describe others t = .ok r ∧ (summary t).Alike r :=
    fun t ht => h.summary describe (hsummary t ht)
  choose! other hother alike using each
  rw [rows_volume hsummary] at run
  rw [rows_volume fun t ht => hother t (h.topics.mem_iff.mpr ht), ← h.listed, ← h.totals]
  simp only [← h.totalOn]
  exact forall₂_mapM (fun t ht row hrow => (alike t (mem_listing.mp ht).1).row hrow) run

/-- The report does not depend on the order of the days, nor on the order of the components in each
of them. It is made out whenever the devices have names, moments can be compared and the messages
are not too many for a mean. -/
theorem rows_reordered {days others : List DayCount} (h : Reordered days others)
    (describe : Datum → Device) (minimum : Int) :
    Agree (rows (days.map DayCount.volume) describe (.int minimum))
        (rows (others.map DayCount.volume) describe (.int minimum)) ∧
      (Moderate days → (∀ d ∈ days, ∃ name, (describe (.int d.deviceId)).name = .text name) →
        ∃ found, rows (days.map DayCount.volume) describe (.int minimum) = .ok found) := by
  refine ⟨?_, fun moderate named => moderate.rows named minimum⟩
  cases report : rows (days.map DayCount.volume) describe (.int minimum) with
  | ok found =>
    obtain ⟨told, run, alike⟩ := h.rows describe minimum report
    rw [run]
    exact alike
  | error e =>
    cases other : rows (others.map DayCount.volume) describe (.int minimum) with
    | ok told =>
      -- what can be made out of the others can be made out of these
      obtain ⟨found, run, -⟩ := h.symm.rows describe minimum other
      cases run.symm.trans report
    | error e => exact True.intro

/-- A day on which two components have three messages each. -/
def even : DayCount :=
  ⟨3, "error", ⟨2024, 2, 29⟩, 6, 1, [("pump", 3), ("fan", 3)], some ⟨leapDay + 60, some 0⟩,
    some ⟨leapDay + 60, some 0⟩⟩

/-- A day with the same first critical message, told on a clock that is ahead of UTC. -/
def ahead : DayCount :=
  ⟨3, "error", ⟨2024, 3, 1⟩, 2, 1, [], some ⟨leapDay + 90, some 30⟩, some ⟨leapDay + 90, some 30⟩⟩

theorem rows_reordered_even : ∃ found told,
    rows ([even, ahead].map DayCount.volume) (fun _ => cellar) (.int 1) = .ok found ∧
      rows ([ahead, { even with components := [("fan", 3), ("pump", 3)] }].map DayCount.volume)
        (fun _ => cellar) (.int 1) = .ok told ∧
      List.Forall₂ Row.Alike found told := by
  have reordered : Reordered [even, ahead]
      [ahead, { even with components := [("fan", 3), ("pump", 3)] }] :=
    ⟨[ahead, even], .swap _ _ _,
      .cons ⟨rfl, .refl _⟩ (.cons ⟨rfl, .swap _ _ _⟩ .nil)⟩
  have moderate : Moderate [even, ahead] := ⟨by decide +kernel, by decide +kernel,
    by simp [even, ahead, Moment.isPlaced], by simp [even, ahead, Moment.isPlaced]⟩
  obtain ⟨agree, success⟩ := rows_reordered reordered (fun _ => cellar) 1
  obtain ⟨found, run⟩ := success moderate fun _ _ => ⟨"cellar", rfl⟩
  rw [run] at agree
  cases other : rows ([ahead, { even with components := [("fan", 3), ("pump", 3)] }].map
      DayCount.volume) (fun _ => cellar) (.int 1) with
  | error e => rw [other] at agree; exact agree.elim
  | ok told =>
    rw [other] at agree
    exact ⟨found, told, run, rfl, agree⟩

end DeviceAlerts.Report
