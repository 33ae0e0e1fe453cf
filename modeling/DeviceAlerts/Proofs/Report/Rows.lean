import DeviceAlerts.Proofs.Report.Components
import DeviceAlerts.Report
import DeviceAlerts.Store

/-! The month report of well-formed messages. It is put together from daily volumes, but each of its
rows says what the messages of a device and type themselves say, and there is a row for every device
and type with enough messages. -/

namespace DeviceAlerts.Report

open DeviceAlerts.Form DeviceAlerts.Number DeviceAlerts.Store DeviceAlerts.Time

/-! ### Subjects -/

/-- A device and a type of message. -/
structure Topic where
  deviceId : Int
  type : String
  deriving DecidableEq

def topicOf (a : Arrival) : Topic := ⟨a.deviceId, a.type⟩

def slotTopic (s : Slot) : Topic := ⟨s.deviceId, s.type⟩

def Topic.subject (t : Topic) : Subject := ⟨.int t.deviceId, .text t.type⟩

def Topic.slot (t : Topic) (d : Fin dayCount) : Slot := ⟨t.deviceId, t.type, d⟩

/-- The messages on a topic. -/
def onTopic (arrivals : List Arrival) (t : Topic) : List Arrival :=
  arrivals.filter fun a => topicOf a = t

/-- The days on which messages on a topic came in, in order. -/
def topicDays (arrivals : List Arrival) (t : Topic) : List (Fin dayCount) :=
  ((slots arrivals).filter fun s => slotTopic s = t).map (·.day)

theorem subject_beq (t u : Topic) : (t.subject == u.subject) = decide (t = u) := by
  obtain ⟨i, s⟩ := t
  obtain ⟨j, r⟩ := u
  show (Datum.int i == .int j && Datum.text s == .text r) = _
  rw [Bool.eq_iff_iff]
  simp

/-- Volumes are grouped by their topics. -/
theorem group_map {α : Type} {topic : α → Topic} {volume : α → DailyVolume}
    (subject : ∀ x, Subject.ofVolume (volume x) = .ok (topic x).subject) (xs : List α) :
    group (xs.map volume) = .ok ((xs.map topic).eraseDups.map fun t =>
      (t.subject, (xs.filter fun x => topic x = t).map volume)) := by
  rw [group, List.foldlM_map]
  refine (foldlM_eq_ok (fun table x _ => ?_) []).trans
    (congrArg Except.ok (Table.foldl_group subject_beq topic volume xs))
  rw [subject]
  rfl

theorem map_slot_topicDays (arrivals : List Arrival) (t : Topic) :
    (topicDays arrivals t).map t.slot = (slots arrivals).filter fun s => slotTopic s = t := by
  rw [topicDays, List.map_map]
  refine (List.map_congr_left fun s hs => ?_).trans (List.map_id _)
  obtain ⟨_, rfl⟩ := List.mem_filter.mp hs |>.imp_right of_decide_eq_true
  rfl

section Volumes

variable {arrivals : List Arrival} {volume : Slot → DailyVolume}
  (sums : ∀ s, SumsUp (onSlot arrivals s) s (volume s))

include sums

/-- The volumes of the days of a topic. -/
theorem daily (t : Topic) : Daily (onTopic arrivals t) (topicDays arrivals t) t.slot
    fun d => volume (t.slot d) where
  nodup := by
    refine List.Nodup.of_map t.slot ?_
    rw [map_slot_topicDays]
    exact (nodup_slots arrivals).filter _
  same d := by
    simp only [topicDays, activeDays, onTopic, List.mem_map, List.mem_filter, mem_slots,
      List.mem_toFinset, decide_eq_true_eq]
    constructor
    · rintro ⟨_, ⟨⟨a, ha, rfl⟩, htopic⟩, rfl⟩
      exact ⟨a, ⟨ha, htopic⟩, rfl⟩
    · rintro ⟨a, ⟨ha, htopic⟩, rfl⟩
      exact ⟨a.slot, ⟨⟨a, ha, rfl⟩, htopic⟩, rfl⟩
  sums d := by
    have same : onDay (onTopic arrivals t) d = onSlot arrivals (t.slot d) := by
      rw [onDay, onTopic, onSlot, List.filter_filter]
      refine List.filter_congr fun a _ => ?_
      rw [Bool.eq_iff_iff]
      obtain ⟨deviceId, type⟩ := t
      simp only [Bool.and_eq_true, decide_eq_true_eq, Arrival.slot, Topic.slot, topicOf,
        Slot.mk.injEq, Topic.mk.injEq]
      tauto
    rw [same]
    exact sums _

theorem group_volumes : group ((slots arrivals).map volume) =
    .ok (((slots arrivals).map slotTopic).eraseDups.map fun t =>
      (t.subject, (topicDays arrivals t).map fun d => volume (t.slot d))) := by
  have subject (s : Slot) : Subject.ofVolume (volume s) = .ok (slotTopic s).subject := by
    simp only [Subject.ofVolume, (sums s).deviceId, (sums s).type]
    rfl
  have days (t : Topic) : ((topicDays arrivals t).map fun d => volume (t.slot d)) =
      ((slots arrivals).filter fun s => slotTopic s = t).map volume := by
    rw [← map_slot_topicDays, List.map_map]
    rfl
  simp only [days]
  exact group_map subject _

end Volumes

/-! ### Summaries -/

instance : Nonempty Figures := ⟨⟨0, 0, .zero, 0, .zero, 0, 0, 0, .null, .null, none, .zero⟩⟩

instance : Nonempty Summary := ⟨⟨.null, .null, .null, .null, Classical.arbitrary _⟩⟩

instance : Nonempty Row := ⟨⟨0, "", "", none, Classical.arbitrary _, 0⟩⟩

/-- A summary says what the messages on a topic say. -/
structure Summarizes (arrivals : List Arrival) (t : Topic) (name : Datum) (s : Summary) : Prop where
  deviceId : s.deviceId = .int t.deviceId
  name : s.name = name
  type : s.type = .text t.type
  mostActive : ∃ found : Option String, s.mostActive = found.elim .null .text ∧
    IsMostFrequent (namedComponents arrivals) found
  figures : FiguresOf arrivals s.figures

/-- A row says what messages say. -/
structure RowOf (arrivals : List Arrival) (r : Row) : Prop where
  mostActive : IsMostFrequent (namedComponents arrivals) r.mostActive
  figures : FiguresOf arrivals r.figures

theorem summarize_ok {arrivals : List Arrival} {t : Topic} {days : List (Fin dayCount)}
    {volume : Fin dayCount → DailyVolume} (h : Daily arrivals days t.slot volume)
    (some : days ≠ []) {bound : Nat} (small : bound ≤ 1022) (fits : arrivals.length < 2 ^ bound)
    (name : Datum) : ∃ s,
      summarize (.int t.deviceId) name (.text t.type) (days.map volume) = .ok s ∧
        Summarizes arrivals t name s := by
  obtain ⟨found, hfound, isFound⟩ := h.mostActive
  obtain ⟨figures, hfigures, isFigures⟩ := h.figures_ok some small fits
  refine ⟨⟨.int t.deviceId, name, .text t.type, found.elim .null .text, figures⟩, ?_, rfl, rfl, rfl,
    ⟨found, rfl, isFound⟩, isFigures⟩
  simp only [summarize, hfound, hfigures, bind, Except.bind, Except.mapError]
  rfl

/-- The row of a summary in which all is of the right kind and nothing negative is counted. -/
theorem check_typed {s : Summary} {t : Topic} {name : String} {found : Option String}
    (deviceId : s.deviceId = .int t.deviceId) (hname : s.name = .text name)
    (type : s.type = .text t.type) (mostActive : s.mostActive = found.elim .null .text)
    (total : 0 ≤ s.figures.total) (greatest : 0 ≤ s.figures.greatest)
    (critical : 0 ≤ s.figures.critical) (greatestCritical : 0 ≤ s.figures.greatestCritical)
    (rank : Nat) : (s.check rank).toExcept =
      .ok ⟨t.deviceId, name, t.type, found, s.figures, rank⟩ := by
  have count {n : Int} (hn : 0 ≤ n) : readCount n = .sound n := by
    rw [readCount, readBounded, Form.readInteger]
    simp [not_lt.mpr hn]
  have component : readOptional readText (found.elim .null .text) = .sound found := by
    cases found <;> rfl
  simp only [Summary.check, checked, deviceId, hname, type, mostActive, count total,
    count critical, count greatest, count greatestCritical, component]
  rfl

theorem check_ok {arrivals : List Arrival} {t : Topic} {name : String} {s : Summary}
    (h : Summarizes arrivals t (.text name) s) (rank : Nat) :
    ∃ r, (s.check rank).toExcept = .ok r ∧ r.deviceId = t.deviceId ∧ r.type = t.type ∧
      r.name = name ∧ RowOf arrivals r := by
  obtain ⟨found, hfound, isFound⟩ := h.mostActive
  refine ⟨⟨t.deviceId, name, t.type, found, s.figures, rank⟩, ?_, rfl, rfl, rfl, isFound, h.figures⟩
  refine check_typed h.deviceId h.name h.type hfound ?_ ?_ ?_ ?_ rank
  · rw [h.figures.total]
    exact Int.natCast_nonneg _
  · obtain ⟨d, _, hd⟩ := h.figures.greatest.1
    rw [← hd]
    exact Int.natCast_nonneg _
  · rw [h.figures.critical]
    exact Int.natCast_nonneg _
  · obtain ⟨d, _, hd⟩ := h.figures.greatestCritical.1
    rw [← hd]
    exact Int.natCast_nonneg _

theorem summaries_ok {arrivals : List Arrival} {volume : Slot → DailyVolume}
    (sums : ∀ s, SumsUp (onSlot arrivals s) s (volume s)) (describe : Datum → Device) {bound : Nat}
    (small : bound ≤ 1022) (fits : arrivals.length < 2 ^ bound) : ∃ summary : Topic → Summary,
      summaries ((slots arrivals).map volume) describe =
        .ok (((slots arrivals).map slotTopic).eraseDups.map summary) ∧
      ∀ t ∈ ((slots arrivals).map slotTopic).eraseDups, Summarizes (onTopic arrivals t) t
        (describe (.int t.deviceId)).name (summary t) := by
  have each : ∀ t ∈ ((slots arrivals).map slotTopic).eraseDups, ∃ s,
      summarize (.int t.deviceId) (describe (.int t.deviceId)).name (.text t.type)
        ((topicDays arrivals t).map fun d => volume (t.slot d)) = .ok s ∧
      Summarizes (onTopic arrivals t) t (describe (.int t.deviceId)).name s := by
    intro t ht
    obtain ⟨s, hs, rfl⟩ := List.mem_map.mp (List.mem_eraseDups.mp ht)
    have some : topicDays arrivals (slotTopic s) ≠ [] :=
      List.ne_nil_of_mem (List.mem_map_of_mem (List.mem_filter.mpr ⟨hs, decide_eq_true rfl⟩))
    exact summarize_ok (daily sums _) some small ((List.length_filter_le _ _).trans_lt fits) _
  obtain ⟨summary, hmapM, hsummary⟩ := exists_mapM_eq_ok each
  refine ⟨summary, ?_, hsummary⟩
  simp only [summaries, group_volumes sums, bind, Except.bind, Except.mapError, List.mapM_map]
  exact hmapM

/-! ### The report -/

def Row.topic (r : Row) : Topic := ⟨r.deviceId, r.type⟩

/-- What topics are ranked by when each has so many messages. -/
def placeBy (total : Topic → Int) (t : Topic) : Int ×ₗ Int ×ₗ String :=
  toLex (t.deviceId, toLex (-total t, t.type))

/-- The topics with enough messages, by device, then by volume, then by type. -/
def listing (topics : List Topic) (total : Topic → Int) (minimum : Int) : List Topic :=
  (topics.filter fun t => minimum ≤ total t).mergeSort fun t u =>
    decide (placeBy total t ≤ placeBy total u)

theorem placeBy_injective (total : Topic → Int) : Function.Injective (placeBy total) := by
  intro t u same
  have parts := Prod.ext_iff.mp (toLex.injective same)
  have later := Prod.ext_iff.mp (toLex.injective parts.2)
  obtain ⟨i, s⟩ := t
  obtain ⟨j, r⟩ := u
  exact congrArg₂ Topic.mk parts.1 later.2

theorem mem_listing {topics : List Topic} {total : Topic → Int} {minimum : Int} {t : Topic} :
    t ∈ listing topics total minimum ↔ t ∈ topics ∧ minimum ≤ total t := by
  rw [listing, List.mem_mergeSort, List.mem_filter, decide_eq_true_eq]

theorem nodup_listing {topics : List Topic} (nodup : topics.Nodup) (total : Topic → Int)
    (minimum : Int) : (listing topics total minimum).Nodup :=
  (List.mergeSort_perm _ _).nodup_iff.mpr (nodup.filter _)

/-- What topics are ranked by. -/
def Topic.place (arrivals : List Arrival) (t : Topic) : Int ×ₗ Int ×ₗ String :=
  toLex (t.deviceId, toLex (-((onTopic arrivals t).length : Int), t.type))

/-- The topics with so many messages, by device, then by volume, then by type. -/
def ranking (arrivals : List Arrival) (minimum : Int) : List Topic :=
  ((((slots arrivals).map slotTopic).eraseDups).filter fun t =>
    minimum ≤ (onTopic arrivals t).length).mergeSort fun t u =>
      decide (t.place arrivals ≤ u.place arrivals)

theorem nodup_ranking (arrivals : List Arrival) (minimum : Int) :
    (ranking arrivals minimum).Nodup :=
  nodup_listing (Table.nodup_eraseDups _) _ minimum

theorem mem_ranking {arrivals : List Arrival} {minimum : Int} {t : Topic} :
    t ∈ ranking arrivals minimum ↔
      onTopic arrivals t ≠ [] ∧ minimum ≤ (onTopic arrivals t).length := by
  have occurs : (∃ s ∈ slots arrivals, slotTopic s = t) ↔ onTopic arrivals t ≠ [] := by
    constructor
    · rintro ⟨_, hs, rfl⟩
      obtain ⟨a, ha, rfl⟩ := mem_slots.mp hs
      exact List.ne_nil_of_mem (List.mem_filter.mpr ⟨ha, decide_eq_true rfl⟩)
    · intro some
      obtain ⟨a, ha⟩ := List.exists_mem_of_ne_nil _ some
      obtain ⟨ha, htopic⟩ := List.mem_filter.mp ha
      exact ⟨a.slot, mem_slots.mpr ⟨a, ha, rfl⟩, of_decide_eq_true htopic⟩
  refine mem_listing.trans ?_
  rw [List.mem_eraseDups, List.mem_map, occurs]

/-- Each summary is about a topic and counts so many messages. -/
structure Summary.About (t : Topic) (total : Int) (s : Summary) : Prop where
  deviceId : s.deviceId = .int t.deviceId
  type : s.type = .text t.type
  total : s.figures.total = total

section Summaries

variable {topics : List Topic} {summary : Topic → Summary} {total : Topic → Int}
  (about : ∀ t ∈ topics, (summary t).About t (total t))

include about

theorem keep_summaries (minimum : Int) :
    Sorting.keep (Summary.isEnough (.int minimum)) (topics.map summary) =
      .ok ((topics.filter fun t => minimum ≤ total t).map summary) := by
  refine Sorting.keep_map fun t ht => ?_
  rw [Summary.isEnough, Datum.stands_int, Relation.admits_notBelow, (about t ht).total]

/-- Summaries are compared as topics are ranked. -/
theorem below_summaries {t u : Topic} (ht : t ∈ topics) (hu : u ∈ topics) :
    (summary t).below (summary u) = .ok (decide (placeBy total t < placeBy total u)) := by
  rw [Summary.below, (about t ht).deviceId, (about t ht).type, (about t ht).total,
    (about u hu).deviceId, (about u hu).type, (about u hu).total]
  exact Datum.keyBelow_int_lex (Datum.keyBelow_int_lex (Datum.keyBelow_text _ _) _ _) _ _

/-- Selecting and sorting do not fail, so the rows are those of the topics in their order. -/
theorem rows_of_summaries {volumes : List DailyVolume} {describe : Datum → Device}
    (run : summaries volumes describe = .ok (topics.map summary)) (minimum : Int) :
    rows volumes describe (.int minimum) = (listing topics total minimum).mapM fun t =>
      ((summary t).check (rank ((topics.filter fun t => minimum ≤ total t).map summary)
        (summary t))).toExcept := by
  have sorted : Sorting.ascending Summary.below
      ((topics.filter fun t => minimum ≤ total t).map summary) =
        .ok ((listing topics total minimum).map summary) :=
    Sorting.ascending_map fun t ht u hu => below_summaries about (List.mem_filter.mp ht).1
      (List.mem_filter.mp hu).1
  simp only [rows, run, keep_summaries about, sorted, bind, Except.bind, Except.mapError,
    List.mapM_map]
  rfl

end Summaries

theorem rows_ok {arrivals : List Arrival} {volume : Slot → DailyVolume}
    (sums : ∀ s, SumsUp (onSlot arrivals s) s (volume s)) {describe : Datum → Device}
    (named : ∀ a ∈ arrivals, ∃ name, (describe (.int a.deviceId)).name = .text name) {bound : Nat}
    (small : bound ≤ 1022) (fits : arrivals.length < 2 ^ bound) (minimum : Int) :
    ∃ row : Topic → Row, Report.rows ((slots arrivals).map volume) describe (.int minimum) =
        .ok ((ranking arrivals minimum).map row) ∧
      ∀ t ∈ ranking arrivals minimum, (row t).topic = t ∧
        (describe (.int t.deviceId)).name = .text (row t).name ∧
        RowOf (onTopic arrivals t) (row t) := by
  obtain ⟨summary, hsummaries, summarizes⟩ := summaries_ok sums describe small fits
  have about : ∀ t ∈ ((slots arrivals).map slotTopic).eraseDups,
      (summary t).About t (onTopic arrivals t).length := fun t ht =>
    ⟨(summarizes t ht).deviceId, (summarizes t ht).type, (summarizes t ht).figures.total⟩
  have run := rows_of_summaries about hsummaries minimum
  have each : ∀ t ∈ ranking arrivals minimum, ∃ r,
      ((summary t).check (rank (((((slots arrivals).map slotTopic).eraseDups).filter fun t =>
        minimum ≤ (onTopic arrivals t).length).map summary) (summary t))).toExcept = .ok r ∧
        r.topic = t ∧ (describe (.int t.deviceId)).name = .text r.name ∧
        RowOf (onTopic arrivals t) r := by
    intro t ht
    have member := (mem_listing.mp ht).1
    obtain ⟨a, among⟩ := List.exists_mem_of_ne_nil _ (mem_ranking.mp ht).1
    obtain ⟨ha, rfl⟩ := (List.mem_filter.mp among).imp_right of_decide_eq_true
    obtain ⟨name, hname⟩ := named a ha
    have summarized := summarizes _ member
    rw [show (topicOf a).deviceId = a.deviceId from rfl, hname] at summarized
    obtain ⟨r, hr, hdevice, htype, hrow⟩ := check_ok summarized _
    exact ⟨r, hr, by rw [Row.topic, hdevice, htype], hrow.1 ▸ hname, hrow.2⟩
  obtain ⟨row, hmapM, hrow⟩ := exists_mapM_eq_ok each
  exact ⟨row, run.trans hmapM, hrow⟩

/-- The month report of well-formed messages has one row for every device and type of which there
are messages from the given instant on, and enough of them, and the row says what these messages
say. The number of messages has to be in the range of the numbers in which a median is told; beyond
it the division that makes the median fails. -/
theorem monthReport_eq_direct {arrivals : List Arrival} {since : Moment}
    (placed : since.isPlaced = true) {describe : Datum → Device}
    (named : ∀ a ∈ arrivals, ∃ name, (describe (.int a.deviceId)).name = .text name)
    (fits : arrivals.length < 2 ^ 1022) (minimum : Int) {store : Store}
    (stored : store.messages = arrivals.map Arrival.message) (now : Moment) :
    ∃ volumes rows, (store.perform now (.dailyVolumes since)).1 = .ok volumes ∧
      Report.rows volumes describe (.int minimum) = .ok rows ∧
      (rows.map Row.topic).Nodup ∧
      (∀ t, t ∈ rows.map Row.topic ↔ onTopic (recent arrivals since) t ≠ [] ∧
        minimum ≤ (onTopic (recent arrivals since) t).length) ∧
      ∀ r ∈ rows, (describe (.int r.deviceId)).name = .text r.name ∧
        RowOf (onTopic (recent arrivals since) r.topic) r := by
  obtain ⟨volume, hvolumes, sums⟩ := dailyVolumes_message arrivals placed
  obtain ⟨row, hrows, hrow⟩ := rows_ok sums
    (fun a ha => named a (List.mem_filter.mp ha).1) le_rfl
    ((List.length_filter_le _ _).trans_lt fits) minimum
  have topics : ((ranking (recent arrivals since) minimum).map row).map Row.topic =
      ranking (recent arrivals since) minimum := by
    rw [List.map_map]
    exact (List.map_congr_left fun t ht => (hrow t ht).1).trans (List.map_id _)
  refine ⟨_, _, ?_, hrows, ?_, fun t => ?_, List.forall_mem_map.mpr fun t ht => ?_⟩
  · rw [← stored] at hvolumes
    exact hvolumes
  · rw [topics]
    exact nodup_ranking _ _
  · rw [topics, mem_ranking]
  · obtain ⟨same, name, isRow⟩ := hrow t ht
    have device : (row t).deviceId = t.deviceId := congrArg Topic.deviceId same
    exact ⟨by rw [device]; exact name, same.symm ▸ isRow⟩

/-- The beginning of the twenty-ninth of February 2024. -/
def leapDay : Int := 738944 * microsPerDay

/-- Two messages on the state of a device, and another one before that day. -/
def stated : List Arrival :=
  [⟨3, .text "low", "state", .text "info", "pump", ⟨leapDay - 1, some 0⟩, rfl, by decide⟩,
    ⟨3, .text "off", "state", .text "critical", "pump", ⟨leapDay + 60, some 0⟩, rfl, by decide⟩,
    ⟨3, .text "up", "state", .text "info", "", ⟨leapDay + 90, some 0⟩, rfl, by decide⟩]

def cellar : Device := ⟨.int 3, .text "cellar", .text "pump", .text "10.0.0.3", [], .null, .null⟩

theorem monthReport_eq_direct_stated : ∃ volumes rows,
    (Store.perform ⟨.empty, .empty, stated.map Arrival.message⟩ ⟨leapDay, some 0⟩
      (.dailyVolumes ⟨leapDay, some 0⟩)).1 = .ok volumes ∧
    Report.rows volumes (fun _ => cellar) (.int 2) = .ok rows ∧
    ∃ r ∈ rows, r.topic = ⟨3, "state"⟩ ∧ r.name = "cellar" ∧ r.figures.total = 2 := by
  have few (bound : Nat) (h : 3 < bound) : stated.length < 2 ^ bound :=
    h.trans Nat.lt_two_pow_self
  obtain ⟨volumes, rows, hvolumes, hrows, -, each, told⟩ :=
    @monthReport_eq_direct stated ⟨leapDay, some 0⟩ rfl (fun _ => cellar)
      (fun _ _ => ⟨"cellar", rfl⟩) (few 1022 (by decide)) 2
      ⟨.empty, .empty, stated.map Arrival.message⟩ rfl ⟨leapDay, some 0⟩
  have two : (onTopic (recent stated ⟨leapDay, some 0⟩) ⟨3, "state"⟩).length = 2 := by
    decide +kernel
  have present := (each ⟨3, "state"⟩).mpr ⟨List.ne_nil_of_length_pos (by rw [two]; decide),
    by rw [two]; decide⟩
  obtain ⟨r, hr, htopic⟩ := List.mem_map.mp present
  obtain ⟨name, isRow⟩ := told r hr
  refine ⟨volumes, rows, hvolumes, hrows, r, hr, htopic, (Datum.text.inj name).symm, ?_⟩
  rw [isRow.figures.total, htopic, two]
  rfl

end DeviceAlerts.Report
