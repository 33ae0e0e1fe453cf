import DeviceAlerts.Proofs.Report.Rows
import Mathlib.Algebra.Order.BigOperators.Group.List
import Mathlib.Algebra.Order.Interval.Finset.SuccPred
import Mathlib.Data.Finset.Max
import Mathlib.Data.Nat.SuccPred
import Mathlib.Order.Interval.Finset.Nat

/-! Daily counts whose parts are all of the right kind, and what a report makes of them. Whether a
topic gets a row, where it stands and which rank it has is told by the totals of the topics alone;
what else is in a row is told by the days of its own topic. -/

namespace DeviceAlerts.Report

open DeviceAlerts.Number DeviceAlerts.Time

/-- What is counted of the messages of one type that came from one device on one day. -/
structure DayCount where
  deviceId : Int
  type : String
  day : Date
  total : Nat
  critical : Nat
  components : List (String × Int)
  firstCritical : Option Moment
  lastCritical : Option Moment

namespace DayCount

def topic (d : DayCount) : Topic := ⟨d.deviceId, d.type⟩

def volume (d : DayCount) : DailyVolume where
  deviceId := .int d.deviceId
  type := .text d.type
  day := d.day
  total := d.total
  critical := d.critical
  components := d.components.map fun row => (.text row.1, row.2)
  firstCritical := d.firstCritical.elim .null .moment
  lastCritical := d.lastCritical.elim .null .moment

end DayCount

/-! ### Topics -/

/-- The topics of several days, in the order in which they first occur. -/
def topics (days : List DayCount) : List Topic := (days.map DayCount.topic).eraseDups

def daysOn (days : List DayCount) (t : Topic) : List DayCount := days.filter fun d => d.topic = t

/-- All messages on a topic. -/
def totalOn (days : List DayCount) (t : Topic) : Nat := ((daysOn days t).map (·.total)).sum

theorem mem_topics {days : List DayCount} {t : Topic} :
    t ∈ topics days ↔ ∃ d ∈ days, d.topic = t := by
  rw [topics, List.mem_eraseDups, List.mem_map]

theorem daysOn_ne_nil {days : List DayCount} {t : Topic} (h : t ∈ topics days) :
    daysOn days t ≠ [] := by
  obtain ⟨d, hd, rfl⟩ := mem_topics.mp h
  exact List.ne_nil_of_mem (List.mem_filter.mpr ⟨hd, decide_eq_true rfl⟩)

theorem sum_daysOn_le (days : List DayCount) (t : Topic) (count : DayCount → Nat) :
    ((daysOn days t).map count).sum ≤ (days.map count).sum := by
  have part : ((daysOn days t).map count).Sublist (days.map count) := List.filter_sublist.map count
  exact part.sum_le_sum fun n _ => Nat.zero_le n

/-- What the days of a topic come to. -/
def summaryOn (describe : Datum → Device) (days : List DayCount) (t : Topic) :
    Except Failure Summary :=
  summarize (.int t.deviceId) (describe (.int t.deviceId)).name (.text t.type)
    ((daysOn days t).map DayCount.volume)

theorem summaries_volume (days : List DayCount) (describe : Datum → Device) :
    summaries (days.map DayCount.volume) describe =
      (topics days).mapM (summaryOn describe days) := by
  have grouped := @group_map _ DayCount.topic DayCount.volume (fun _ => rfl) days
  simp only [summaries, grouped, bind, Except.bind, Except.mapError, List.mapM_map]
  rfl

/-! ### What a summary says -/

section

variable (days : List DayCount) {value : DailyVolume → Int} {count : DayCount → Nat}
  (same : ∀ d : DayCount, value d.volume = count d)

include same

theorem sumCounts_volume :
    sumCounts ((days.map DayCount.volume).map value) = (days.map count).sum := by
  rw [List.map_map]
  exact sumCounts_map days same

theorem sumCounts_nonneg : 0 ≤ sumCounts ((days.map DayCount.volume).map value) := by
  rw [sumCounts_volume days same]
  exact Int.natCast_nonneg _

theorem greatest_nonneg : 0 ≤ greatest ((days.map DayCount.volume).map value) := by
  have nonneg : ∀ n ∈ (days.map DayCount.volume).map value, 0 ≤ n := by
    intro n hn
    rw [List.map_map] at hn
    obtain ⟨d, -, rfl⟩ := List.mem_map.mp hn
    exact (same d).ge.trans' (Int.natCast_nonneg _)
  by_cases none : (days.map DayCount.volume).map value = []
  · rw [none]
    exact le_rfl
  · exact nonneg _ (greatest_spec none).1

end

theorem summarize_eq_ok {deviceId name type : Datum} {days : List DailyVolume} {s : Summary} :
    summarize deviceId name type days = .ok s ↔ ∃ component f,
      mostActive (componentTotals days) = .ok component ∧ figures days = .ok f ∧
        s = ⟨deviceId, name, type, component, f⟩ := by
  constructor
  · intro run
    obtain ⟨component, hcomponent, run⟩ := bind_eq_ok.mp run
    obtain ⟨f, hf, run⟩ := bind_eq_ok.mp run
    exact ⟨component, f, mapError_eq_ok.mp hcomponent, hf, (Except.ok.inj run).symm⟩
  · rintro ⟨component, f, hcomponent, hf, rfl⟩
    simp only [summarize, hcomponent, hf, bind, Except.bind, Except.mapError]
    rfl

/-- The entries of all days for their components. -/
def entries (days : List DayCount) : List (String × Int) := days.flatMap (·.components)

/-- The messages of a component over all days. -/
def componentTotal (days : List DayCount) (name : String) : Int :=
  (((entries days).filter fun row => row.1 = name).map (·.2)).sum

theorem componentTotals_volume (days : List DayCount) :
    componentTotals (days.map DayCount.volume) =
      ((entries days).map (·.1)).eraseDups.map fun name =>
        (.text name, componentTotal days name) := by
  have rows : (days.map DayCount.volume).flatMap (·.components) =
      (entries days).map fun row => (.text row.1, row.2) := by
    rw [List.flatMap_map, entries, List.map_flatMap]
    rfl
  rw [componentTotals, rows, List.foldl_map]
  exact Table.foldl_total Datum.text_beq_text Prod.fst Prod.snd (entries days)

theorem mostActive_volume (days : List DayCount) : ∃ found : Option String,
    mostActive (componentTotals (days.map DayCount.volume)) = .ok (found.elim .null .text) ∧
      Busiest (componentTotal days) ((entries days).map (·.1)).eraseDups found := by
  rw [componentTotals_volume]
  exact mostActive_busiest _ _

theorem about_summaryOn {describe : Datum → Device} {days : List DayCount} {t : Topic}
    {s : Summary} (run : summaryOn describe days t = .ok s) : s.About t (totalOn days t) := by
  obtain ⟨component, f, -, hf, rfl⟩ := summarize_eq_ok.mp run
  obtain ⟨first, last, interval, average, middle, percent, -, -, -, -, -, -, rfl⟩ :=
    figures_eq_ok.mp hf
  exact ⟨rfl, rfl, sumCounts_volume _ fun _ => rfl⟩

/-- The row of a topic of a device with a name. -/
theorem check_summaryOn {describe : Datum → Device} {days : List DayCount} {t : Topic}
    {s : Summary} (run : summaryOn describe days t = .ok s) {name : String}
    (named : (describe (.int t.deviceId)).name = .text name) : ∃ found : Option String,
      ∀ rank, (s.check rank).toExcept = .ok ⟨t.deviceId, name, t.type, found, s.figures, rank⟩ := by
  obtain ⟨component, f, hcomponent, hf, rfl⟩ := summarize_eq_ok.mp run
  obtain ⟨found, hfound, -⟩ := mostActive_volume (daysOn days t)
  obtain ⟨first, last, interval, average, middle, percent, -, -, -, -, -, -, rfl⟩ :=
    figures_eq_ok.mp hf
  refine ⟨found, check_typed rfl named rfl (Except.ok.inj (hcomponent.symm.trans hfound))
    ?_ ?_ ?_ ?_⟩
  · exact sumCounts_nonneg _ fun _ => rfl
  · exact greatest_nonneg _ fun _ => rfl
  · exact sumCounts_nonneg _ fun _ => rfl
  · exact greatest_nonneg _ fun _ => rfl

/-! ### Ranks -/

/-- One more than the number of greater totals. -/
def denseRank (totals : Finset Int) (n : Int) : Nat := (totals.filter (n < ·)).card + 1

def totals (days : List DayCount) : Finset Int :=
  ((topics days).map fun t => (totalOn days t : Int)).toFinset

theorem rank_eq_denseRank (all : List Summary) (s : Summary) :
    rank all s = denseRank (all.map (·.figures.total)).toFinset s.figures.total := by
  rw [rank, Table.length_eraseDups, denseRank, List.toFinset_filter]
  simp only [decide_eq_true_eq]

/-- Totals that are too small do not count for the rank of one that is not. -/
theorem denseRank_filter {minimum n : Int} (h : minimum ≤ n) (s : Finset Int) :
    denseRank (s.filter (minimum ≤ ·)) n = denseRank s n := by
  rw [denseRank, denseRank, Finset.filter_filter]
  refine congrArg (fun greater : Finset Int => greater.card + 1) (Finset.filter_congr fun x _ => ?_)
  exact ⟨And.right, fun greater => ⟨h.trans greater.le, greater⟩⟩

/-- The ranks of several totals are those from one up to their number. -/
theorem image_denseRank (s : Finset Int) : s.image (denseRank s) = Finset.Icc 1 s.card := by
  induction s using Finset.induction_on_min with
  | empty => rfl
  | insert least s below ih =>
    -- the least total takes the rank after all others and does not move them
    have fresh : least ∉ s := fun member => lt_irrefl _ (below least member)
    have last : denseRank (insert least s) least = s.card + 1 := by
      rw [denseRank, Finset.filter_insert, if_neg (lt_irrefl _), Finset.filter_true_of_mem below]
    have others : ∀ x ∈ s, denseRank (insert least s) x = denseRank s x := by
      intro x hx
      rw [denseRank, Finset.filter_insert, if_neg (not_lt.mpr (below x hx).le), denseRank]
    rw [Finset.image_insert, last, Finset.image_congr others, ih,
      Finset.card_insert_of_notMem fresh]
    exact Finset.insert_Icc_right_eq_Icc_add_one (by omega)

theorem toFinset_map_denseRank (ns : List Int) :
    (ns.map (denseRank ns.toFinset)).toFinset = Finset.Icc 1 ns.toFinset.card := by
  rw [← image_denseRank]
  ext rank
  simp only [List.mem_toFinset, List.mem_map, Finset.mem_image]

/-! ### Rows -/

/-- The topics that get a row, in the order of their rows. -/
def listed (days : List DayCount) (minimum : Int) : List Topic :=
  listing (topics days) (fun t => totalOn days t) minimum

/-- Where every topic has a summary, the report is made of these, by the order and the ranks that
the totals of the topics have. -/
theorem rows_volume {days : List DayCount} {describe : Datum → Device} {summary : Topic → Summary}
    (run : ∀ t ∈ topics days, summaryOn describe days t = .ok (summary t)) (minimum : Int) :
    rows (days.map DayCount.volume) describe (.int minimum) =
      (listed days minimum).mapM fun t =>
        ((summary t).check (denseRank (totals days) (totalOn days t))).toExcept := by
  have about (t : Topic) (ht : t ∈ topics days) := about_summaryOn (run t ht)
  have all := (summaries_volume days describe).trans (mapM_eq_ok run)
  rw [rows_of_summaries about all minimum]
  refine mapM_congr fun t ht => ?_
  obtain ⟨ht, enough⟩ := mem_listing.mp ht
  have kept : (((topics days).filter fun t => minimum ≤ (totalOn days t : Int)).map summary).map
      (·.figures.total) =
        ((topics days).map fun t => (totalOn days t : Int)).filter (minimum ≤ ·) := by
    rw [List.map_map, List.filter_map]
    exact List.map_congr_left fun u hu => (about u (List.mem_filter.mp hu).1).total
  rw [rank_eq_denseRank, kept, (about t ht).total, List.toFinset_filter]
  simp only [decide_eq_true_eq]
  rw [denseRank_filter enough, totals]

theorem exists_summaries {days : List DayCount} {describe : Datum → Device} {all : List Summary}
    (run : summaries (days.map DayCount.volume) describe = .ok all) : ∃ summary : Topic → Summary,
      ∀ t ∈ topics days, summaryOn describe days t = .ok (summary t) := by
  rw [summaries_volume] at run
  have each := exists_of_mapM_eq_ok run
  choose! summary hsummary using each
  exact ⟨summary, hsummary⟩

/-- A row is that of a topic among all topics of several days. -/
structure Row.Of (days : List DayCount) (t : Topic) (r : Row) : Prop where
  topic : r.topic = t
  total : r.figures.total = totalOn days t
  rank : r.rank = denseRank (totals days) (totalOn days t)

theorem exists_rows {days : List DayCount} {describe : Datum → Device}
    (named : ∀ d ∈ days, ∃ name, (describe (.int d.deviceId)).name = .text name)
    {summary : Topic → Summary}
    (run : ∀ t ∈ topics days, summaryOn describe days t = .ok (summary t)) :
    ∃ row : Topic → Row, (∀ t ∈ topics days, (row t).Of days t) ∧ ∀ minimum : Int,
      rows (days.map DayCount.volume) describe (.int minimum) =
        .ok ((listed days minimum).map row) := by
  have each : ∀ t ∈ topics days, ∃ r : Row, r.Of days t ∧
      ((summary t).check (denseRank (totals days) (totalOn days t))).toExcept = .ok r := by
    intro t ht
    obtain ⟨d, hd, rfl⟩ := mem_topics.mp ht
    obtain ⟨name, hname⟩ := named d hd
    obtain ⟨found, checked⟩ := check_summaryOn (run _ ht) hname
    exact ⟨_, ⟨rfl, (about_summaryOn (run _ ht)).total, rfl⟩, checked _⟩
  choose! row isRow checked using each
  exact ⟨row, isRow, fun minimum => (rows_volume run minimum).trans
    (mapM_eq_ok fun t ht => checked t (mem_listing.mp ht).1)⟩

/-! ### Days that can be summed up -/

/-- All moments say where their clocks stand, and the messages are not too many for the numbers in
which means are told. -/
structure Moderate (days : List DayCount) : Prop where
  totals : (days.map (·.total)).sum < 2 ^ 1022
  criticals : (days.map (·.critical)).sum < 2 ^ 1022
  firsts : ∀ d ∈ days, ∀ m ∈ d.firstCritical, m.isPlaced = true
  lasts : ∀ d ∈ days, ∀ m ∈ d.lastCritical, m.isPlaced = true

/-- The moments that are told. -/
theorem given_moments (days : List DayCount) (value : DailyVolume → Datum)
    (moment : DayCount → Option Moment)
    (same : ∀ d : DayCount, value d.volume = (moment d).elim .null .moment) :
    given ((days.map DayCount.volume).map value) = (days.filterMap moment).map .moment := by
  induction days with
  | nil => rfl
  | cons d rest ih =>
    rw [List.map_cons, List.map_cons, given, List.filter_cons, same, List.filterMap_cons]
    cases moment d with
    | none => exact ih
    | some m => exact congrArg (.moment m :: ·) ih

/-- The mean gap is told between moments that both say where their clocks stand. -/
theorem exists_interval? {before after : Int → Int → Prop} {instants others : List Int}
    {first last : Datum} (isFirst : Datum.Extreme before instants first)
    (isLast : Datum.Extreme after others last) {count bound : Nat} (small : bound ≤ 1023)
    (fits : count < 2 ^ bound) : ∃ interval, interval? first last count = .ok interval := by
  cases isFirst with
  | none => exact ⟨none, rfl⟩
  | @some m placed _ _ =>
    cases isLast with
    | none => exact ⟨none, rfl⟩
    | @some n placed' _ _ =>
      have comparable : m.isComparable n = true := by simp [Moment.isComparable, placed, placed']
      by_cases several : 1 < (count : Int)
      · have gaps := @Binary64.ofIntChecked_ok bound small (count - 1) (by omega)
        simp only [interval?, secondsBetween, comparable, if_true, if_pos several, gaps]
        exact ⟨_, rfl⟩
      · simp only [interval?, if_neg several]
        exact ⟨none, rfl⟩

theorem exists_percentage {critical total bound : Nat} (small : bound ≤ 1023)
    (fits : critical < 2 ^ bound) (fits' : total < 2 ^ bound) :
    ∃ share, percentage critical total = .ok share := by
  by_cases none : total = 0
  · exact ⟨.zero, by rw [none]; rfl⟩
  · exact ⟨_, percentage_ok small none fits fits'⟩

namespace Moderate

variable {days : List DayCount} (h : Moderate days)

include h

theorem daysOn (t : Topic) : Moderate (daysOn days t) where
  totals := (sum_daysOn_le days t _).trans_lt h.totals
  criticals := (sum_daysOn_le days t _).trans_lt h.criticals
  firsts d hd := h.firsts d (List.mem_filter.mp hd).1
  lasts d hd := h.lasts d (List.mem_filter.mp hd).1

theorem figures (some : days ≠ []) : ∃ f, Report.figures (days.map DayCount.volume) = .ok f := by
  obtain ⟨first, hfirst, isFirst⟩ := @Datum.extreme_least? (days.filterMap (·.firstCritical))
    (fun m hm => by obtain ⟨d, hd, told⟩ := List.mem_filterMap.mp hm; exact h.firsts d hd m told)
  obtain ⟨last, hlast, isLast⟩ := @Datum.extreme_greatest? (days.filterMap (·.lastCritical))
    (fun m hm => by obtain ⟨d, hd, told⟩ := List.mem_filterMap.mp hm; exact h.lasts d hd m told)
  rw [← given_moments days (·.firstCritical) _ fun _ => rfl] at hfirst
  rw [← given_moments days (·.lastCritical) _ fun _ => rfl] at hlast
  obtain ⟨interval, hinterval⟩ := exists_interval? isFirst isLast (by decide) h.criticals
  obtain ⟨share, hshare⟩ := exists_percentage (by decide) h.criticals h.totals
  have average := @Binary64.ofQuotientChecked_ok 1022 (by decide)
    ((days.map DayCount.total).sum : Nat) days.length (List.length_pos_of_ne_nil some) h.totals
  have middle := @median_ok (days.map (·.total)) 1022 le_rfl
    fun n hn => (List.le_sum_of_mem hn).trans_lt h.totals
  have counts : (days.map DayCount.volume).map (·.total) = (days.map (·.total)).map Int.ofNat := by
    rw [List.map_map, List.map_map]
    rfl
  have totals : sumCounts ((days.map DayCount.volume).map (·.total)) =
      (days.map (·.total)).sum := sumCounts_volume days fun _ => rfl
  have criticals : sumCounts ((days.map DayCount.volume).map (·.critical)) =
      (days.map (·.critical)).sum := sumCounts_volume days fun _ => rfl
  rw [← criticals] at hinterval hshare
  rw [← totals] at hshare
  rw [← List.length_map DayCount.volume, ← totals] at average
  rw [← counts] at middle
  exact ⟨_, figures_eq_ok.mpr ⟨first, last, interval, _, _, share, hfirst, hlast, hinterval,
    average, middle, hshare, rfl⟩⟩

theorem summaryOn (describe : Datum → Device) {t : Topic} (ht : t ∈ topics days) :
    ∃ s, Report.summaryOn describe days t = .ok s := by
  obtain ⟨found, hfound, -⟩ := mostActive_volume (Report.daysOn days t)
  obtain ⟨f, hf⟩ := (h.daysOn t).figures (daysOn_ne_nil ht)
  exact ⟨_, summarize_eq_ok.mpr ⟨_, f, hfound, hf, rfl⟩⟩

theorem rows {describe : Datum → Device}
    (named : ∀ d ∈ days, ∃ name, (describe (.int d.deviceId)).name = .text name) (minimum : Int) :
    ∃ found, Report.rows (days.map DayCount.volume) describe (.int minimum) = .ok found := by
  have each (t : Topic) (ht : t ∈ topics days) := h.summaryOn describe ht
  choose! summary hsummary using each
  obtain ⟨row, -, hrows⟩ := exists_rows named hsummary
  exact ⟨_, hrows minimum⟩

end Moderate

end DeviceAlerts.Report
