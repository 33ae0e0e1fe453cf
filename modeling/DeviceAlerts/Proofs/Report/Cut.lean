import DeviceAlerts.Proofs.Report.Counts

/-! A report of topics with so many messages at least is cut out of the report of all topics. Ranks
are only given after the selection, but a topic that is left out has fewer messages than any that
stays, so no rank changes with it. -/

namespace DeviceAlerts.Report

open DeviceAlerts.Form

def Row.place (r : Row) : Int ×ₗ Int ×ₗ String :=
  toLex (r.deviceId, toLex (-r.figures.total, r.type))

/-- The rows stand by device, then by volume, then by type, no two of them on one topic, and the
ranks go from one up without a gap, the same for equal totals. -/
structure Ranked (rows : List Row) : Prop where
  ordered : rows.Pairwise fun a b => a.place < b.place
  apart : (rows.map Row.topic).Nodup
  rank : ∀ r ∈ rows,
    r.rank = denseRank (rows.map (·.figures.total)).toFinset r.figures.total
  ranks : ∃ last, (rows.map (·.rank)).toFinset = Finset.Icc 1 last

/-! ### Listings -/

section Listing

variable {topics : List Topic} {total : Topic → Int}

theorem pairwise_listing (nodup : topics.Nodup) (minimum : Int) :
    (listing topics total minimum).Pairwise fun t u => placeBy total t < placeBy total u := by
  have sorted : (listing topics total minimum).Pairwise fun t u =>
      placeBy total t ≤ placeBy total u := Sorting.pairwise_mergeSort_key _ _
  refine (sorted.and (nodup_listing nodup total minimum)).imp ?_
  rintro t u ⟨notAfter, apart⟩
  exact lt_of_le_of_ne notAfter fun same => apart (placeBy_injective total same)

/-- A listing with a minimum is cut out of one in which the minimum leaves nothing out. -/
theorem listing_filter {least : Int} (h : ∀ t, least ≤ total t) (minimum : Int) :
    listing topics total minimum =
      (listing topics total least).filter fun t => minimum ≤ total t := by
  rw [listing, listing, ← Sorting.filter_mergeSort_key (placeBy_injective total),
    List.filter_filter]
  refine congrArg (fun kept => List.mergeSort kept _) (List.filter_congr fun t _ => ?_)
  rw [decide_eq_true (h t), Bool.and_true]

theorem totals_listing (minimum : Int) : ((listing topics total minimum).map total).toFinset =
    (topics.map total).toFinset.filter (minimum ≤ ·) := by
  ext n
  simp only [List.mem_toFinset, List.mem_map, mem_listing, Finset.mem_filter]
  constructor
  · rintro ⟨t, ⟨ht, enough⟩, rfl⟩
    exact ⟨⟨t, ht, rfl⟩, enough⟩
  · rintro ⟨⟨t, ht, rfl⟩, enough⟩
    exact ⟨t, ⟨ht, enough⟩, rfl⟩

end Listing

/-! ### Rows of topics -/

section Listed

variable {days : List DayCount} {row : Topic → Row}
  (isRow : ∀ t ∈ topics days, (row t).Of days t) (minimum : Int)

include isRow

theorem topic_listed : ((listed days minimum).map row).map Row.topic = listed days minimum := by
  rw [List.map_map]
  exact (List.map_congr_left fun t ht => (isRow t (mem_listing.mp ht).1).topic).trans
    (List.map_id _)

theorem total_listed : ((listed days minimum).map row).map (·.figures.total) =
    (listed days minimum).map fun t => (totalOn days t : Int) := by
  rw [List.map_map]
  exact List.map_congr_left fun t ht => (isRow t (mem_listing.mp ht).1).total

theorem place_row {t : Topic} (ht : t ∈ listed days minimum) :
    (row t).place = placeBy (fun t => totalOn days t) t := by
  have here := isRow t (mem_listing.mp ht).1
  have device : (row t).deviceId = t.deviceId := congrArg Topic.deviceId here.topic
  have type : (row t).type = t.type := congrArg Topic.type here.topic
  rw [Row.place, device, type, here.total, placeBy]

/-- The rank among the topics that are left is the rank among all. -/
theorem rank_row {t : Topic} (ht : t ∈ listed days minimum) : (row t).rank = denseRank
    (((listed days minimum).map row).map (·.figures.total)).toFinset (row t).figures.total := by
  obtain ⟨member, enough⟩ := mem_listing.mp ht
  have here := isRow t member
  rw [here.rank, here.total, total_listed isRow, listed, totals_listing, ← totals,
    denseRank_filter enough]

theorem ranked_listed : Ranked ((listed days minimum).map row) where
  ordered := by
    have strict : (listed days minimum).Pairwise fun t u =>
        placeBy (fun t => totalOn days t) t < placeBy (fun t => totalOn days t) u :=
      pairwise_listing (Table.nodup_eraseDups _) minimum
    refine List.pairwise_map.mpr (strict.imp_of_mem ?_)
    intro t u ht hu before
    rwa [place_row isRow minimum ht, place_row isRow minimum hu]
  apart := by
    rw [topic_listed isRow]
    exact nodup_listing (Table.nodup_eraseDups _) _ minimum
  rank := List.forall_mem_map.mpr fun t ht => rank_row isRow minimum ht
  ranks := by
    have images : ((listed days minimum).map row).map (·.rank) =
        (((listed days minimum).map row).map (·.figures.total)).map
          (denseRank (((listed days minimum).map row).map (·.figures.total)).toFinset) := by
      rw [List.map_map, List.map_map, List.map_map]
      exact List.map_congr_left fun t ht => rank_row isRow minimum ht
    rw [images]
    exact ⟨_, toFinset_map_denseRank _⟩

end Listed

/-! ### The report -/

/-- What a report with a minimum says is what the full report says of the topics with so many
messages, row by row with the same ranks, and these ranks are told by the rows that are left. Such a
report is made out, unless moments cannot be compared or messages are too many for a mean. -/
theorem rows_minimum {days : List DayCount} {describe : Datum → Device}
    (named : ∀ d ∈ days, ∃ name, (describe (.int d.deviceId)).name = .text name) (minimum : Int) :
    rows (days.map DayCount.volume) describe (.int minimum) =
        (rows (days.map DayCount.volume) describe (.int 0)).map
          (List.filter fun r => minimum ≤ r.figures.total) ∧
      (∀ found, rows (days.map DayCount.volume) describe (.int minimum) = .ok found →
        Ranked found ∧ (∀ r ∈ found, r.figures.total = totalOn days r.topic) ∧
          ∀ t, t ∈ found.map Row.topic ↔ t ∈ topics days ∧ minimum ≤ totalOn days t) ∧
      (Moderate days →
        ∃ found, rows (days.map DayCount.volume) describe (.int minimum) = .ok found) := by
  refine ⟨?_, fun found hfound => ?_, fun moderate => moderate.rows named minimum⟩
  · cases all : summaries (days.map DayCount.volume) describe with
    | error e =>
      -- the minimum is not looked at before there are summaries
      rw [rows, rows, all]
      rfl
    | ok _ =>
      obtain ⟨summary, run⟩ := exists_summaries all
      obtain ⟨row, isRow, hrows⟩ := exists_rows named run
      have cut : listed days minimum = (listed days 0).filter fun t => minimum ≤ totalOn days t :=
        listing_filter (fun t => Int.natCast_nonneg _) minimum
      rw [hrows, hrows, cut, Except.map, List.filter_map]
      refine congrArg (fun kept => Except.ok (kept.map row)) (List.filter_congr fun t ht => ?_)
      rw [Function.comp, (isRow t (mem_listing.mp ht).1).total]
  · obtain ⟨_, all, -⟩ := bind_eq_ok.mp hfound
    obtain ⟨summary, run⟩ := exists_summaries all
    obtain ⟨row, isRow, hrows⟩ := exists_rows named run
    cases (hrows minimum).symm.trans hfound
    refine ⟨ranked_listed isRow minimum, List.forall_mem_map.mpr fun t ht => ?_, fun t => ?_⟩
    · have here := isRow t (mem_listing.mp ht).1
      rw [here.total, here.topic]
    · rw [topic_listed isRow]
      exact mem_listing

/-- Four kinds of messages from two devices. -/
def volumes : List DayCount :=
  [⟨1, "a", ⟨2026, 3, 19⟩, 50, 0, [], none, none⟩, ⟨1, "b", ⟨2026, 3, 19⟩, 5, 0, [], none, none⟩,
    ⟨2, "a", ⟨2026, 3, 19⟩, 50, 0, [], none, none⟩,
    ⟨2, "c", ⟨2026, 3, 19⟩, 20, 0, [], none, none⟩]

theorem rows_minimum_volumes : ∃ found,
    rows (volumes.map DayCount.volume) (fun _ => cellar) (.int 20) = .ok found ∧
      (rows (volumes.map DayCount.volume) (fun _ => cellar) (.int 0)).map
        (List.filter fun r => 20 ≤ r.figures.total) = .ok found ∧
      Ranked found ∧ ⟨2, "c"⟩ ∈ found.map Row.topic ∧ ⟨1, "b"⟩ ∉ found.map Row.topic := by
  have moderate : Moderate volumes := ⟨by decide +kernel, by decide +kernel,
    by simp [volumes], by simp [volumes]⟩
  obtain ⟨cut, told, success⟩ := @rows_minimum volumes (fun _ => cellar)
    (fun _ _ => ⟨"cellar", rfl⟩) 20
  obtain ⟨found, run⟩ := success moderate
  obtain ⟨ranked, -, topics⟩ := told found run
  refine ⟨found, run, cut.symm.trans run, ranked, (topics _).mpr ?_, fun member => ?_⟩
  · exact ⟨mem_topics.mpr ⟨⟨2, "c", ⟨2026, 3, 19⟩, 20, 0, [], none, none⟩, by simp [volumes], rfl⟩,
      by decide⟩
  · have few : totalOn volumes ⟨1, "b"⟩ = 5 := by decide
    have enough := ((topics _).mp member).2
    rw [few] at enough
    exact absurd enough (by decide)

end DeviceAlerts.Report
