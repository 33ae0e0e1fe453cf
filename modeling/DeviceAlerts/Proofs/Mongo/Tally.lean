import DeviceAlerts.Mongo.Tally
import DeviceAlerts.Proofs.Store.Volumes
import DeviceAlerts.Proofs.Time.Calendar

/-! The daily volumes that the database's counts amount to. The database counts the messages of each
component of a day on its own; put together in whatever order, the counts sum up the messages of the
day, as the volumes in memory do. -/

namespace DeviceAlerts

open DeviceAlerts.Store DeviceAlerts.Time

/-! ### Cells -/

namespace Store

/-- The messages of one component on one day of a kind of message from one device. -/
structure Cell where
  slot : Slot
  component : String
  deriving DecidableEq

def Arrival.cell (a : Arrival) : Cell := ⟨a.slot, a.component⟩

def onCell (arrivals : List Arrival) (c : Cell) : List Arrival :=
  arrivals.filter fun a => a.cell = c

end Store

namespace Mongo

/-! ### Counts of the database -/

/-- What the database counts of the messages of a cell. -/
structure Counted (arrivals : List Arrival) (c : Cell) (key d : Document) : Prop where
  deviceId : key.get? "deviceId" = some (.int c.slot.deviceId)
  type : key.get? "messageType" = some (.text c.slot.type)
  day : key.get? "day" = some (.text (Date.ofOrdinal c.slot.day).text)
  component : key.get? "component" = some (.text c.component)
  total : d.get? "total" = some (.int (onCell arrivals c).length)
  critical : d.get? "critical" = some (.int (criticalInstants (onCell arrivals c)).length)
  firstCritical : Datum.Extreme (· ≤ ·) (criticalInstants (onCell arrivals c))
    (d.optional "firstCritical")
  lastCritical : Datum.Extreme (· ≥ ·) (criticalInstants (onCell arrivals c))
    (d.optional "lastCritical")

/-- A row of the database that counts the messages of a cell. -/
def Counts (arrivals : List Arrival) (c : Cell) (row : Datum) : Prop :=
  ∃ key d : Document, row = .record d ∧ d.get? "_id" = some (.record key) ∧
    Counted arrivals c key d

/-! ### Adding rows -/

namespace Tally

theorem extreme_ok {isGreatest : Bool} {before : Int → Int → Prop} [IsTrans Int before]
    (picks : ∀ moments : List Moment, (∀ m ∈ moments, m.isPlaced = true) → ∃ found,
      (if isGreatest then Datum.greatest? (moments.map .moment)
        else Datum.least? (moments.map .moment)) = .ok found ∧
        Datum.Extreme before (moments.map Moment.instant) (found.getD .null))
    {olds news : List Int} {old new : Datum} (hold : Datum.Extreme before olds old)
    (hnew : Datum.Extreme before news new) :
    ∃ d, (if new = .null then pure old else extreme isGreatest old new) = .ok d ∧
      Datum.Extreme before (olds ++ news) d := by
  cases hnew with
  | none empty =>
    rw [empty, List.append_nil]
    exact ⟨old, rfl, hold⟩
  | @some m placed member bound =>
    have parts : List.Forall₂ (Datum.Extreme before) [olds, news] [old, .moment m] :=
      .cons hold (.cons (.some placed member bound) .nil)
    obtain ⟨moments, hmoments, allPlaced, together⟩ := Datum.Extreme.of_parts parts
    obtain ⟨found, hfound, isFound⟩ := picks moments allPlaced
    have truthy : [old, .moment m].filter Datum.isTruthy = moments.map .moment := by
      rw [← hmoments]
      cases hold <;> rfl
    have whole := together _ isFound
    rw [List.flatten_cons, List.flatten_cons, List.flatten_nil, List.append_nil] at whole
    rw [if_neg Datum.noConfusion, extreme, truthy, hfound]
    cases found with
    | some d => exact ⟨d, rfl, whole⟩
    | none =>
      cases whole with
      | none empty => simp [List.append_eq_nil_iff.mp empty] at member

theorem extreme_first {olds news : List Int} {old new : Datum}
    (hold : Datum.Extreme (· ≤ ·) olds old) (hnew : Datum.Extreme (· ≤ ·) news new) :
    ∃ d, (if new = .null then pure old else extreme false old new) = .ok d ∧
      Datum.Extreme (· ≤ ·) (olds ++ news) d :=
  @extreme_ok false _ _ (fun _ placed => Datum.extreme_least? placed) _ _ _ _ hold hnew

theorem extreme_last {olds news : List Int} {old new : Datum}
    (hold : Datum.Extreme (· ≥ ·) olds old) (hnew : Datum.Extreme (· ≥ ·) news new) :
    ∃ d, (if new = .null then pure old else extreme true old new) = .ok d ∧
      Datum.Extreme (· ≥ ·) (olds ++ news) d :=
  @extreme_ok true _ _ (fun _ placed => Datum.extreme_greatest? placed) _ _ _ _ hold hnew

/-- What rows amount to that count so many messages, component by component. -/
structure Sums (gathered : List Arrival) (components : Table Datum Int) (t : Tally) : Prop where
  total : t.total = gathered.length
  critical : t.critical = (criticalInstants gathered).length
  components : t.components = components
  firstCritical : Datum.Extreme (· ≤ ·) (criticalInstants gathered) t.firstCritical
  lastCritical : Datum.Extreme (· ≥ ·) (criticalInstants gathered) t.lastCritical

/-- Adds the messages of a cell to those of its component, if it has one. -/
def addCell (arrivals : List Arrival) (components : Table Datum Int) (c : Cell) :
    Table Datum Int :=
  if c.component = "" then components
  else components.modify (.text c.component) fun n => n.getD 0 + (onCell arrivals c).length

theorem add_ok {arrivals gathered : List Arrival} {components : Table Datum Int} {t : Tally}
    (h : Sums gathered components t) {c : Cell} {key d : Document}
    (counted : Counted arrivals c key d) : ∃ t', t.add (.text c.component) d = .ok t' ∧
      Sums (gathered ++ onCell arrivals c) (addCell arrivals components c) t' := by
  obtain ⟨first, hfirst, isFirst⟩ := extreme_first h.firstCritical counted.firstCritical
  obtain ⟨last, hlast, isLast⟩ := extreme_last h.lastCritical counted.lastCritical
  have total : d.needInteger "total" = .ok ↑(onCell arrivals c).length := by
    rw [Document.needInteger, Document.need, counted.total]
    rfl
  have critical : d.needInteger "critical" =
      .ok ↑(criticalInstants (onCell arrivals c)).length := by
    rw [Document.needInteger, Document.need, counted.critical]
    rfl
  have added : addComponent t.components (.text c.component) (onCell arrivals c).length =
      .ok (addCell arrivals components c) := by
    rw [h.components, addComponent, addCell]
    by_cases named : c.component = "" <;> simp [Datum.isTruthy, named] <;> rfl
  refine ⟨⟨t.total + (onCell arrivals c).length,
    t.critical + (criticalInstants (onCell arrivals c)).length, addCell arrivals components c,
    first, last⟩, ?_, ?_⟩
  · by_cases noFirst : d.optional "firstCritical" = .null <;>
      by_cases noLast : d.optional "lastCritical" = .null <;>
      simp only [noFirst, noLast, if_true, if_false] at hfirst hlast <;>
      simp only [add, total, critical, added, noFirst, noLast, if_true, if_false, hfirst, hlast,
        bind, Except.bind] <;>
      rfl
  · rw [← criticalInstants_append] at isFirst isLast
    exact ⟨by simp [h.total], by simp [h.critical, criticalInstants_append], rfl, isFirst, isLast⟩

/-- The rows of cells amount to the messages of the cells. -/
theorem foldlM_add {arrivals : List Arrival} {key document : Cell → Document} {cs : List Cell}
    (counted : ∀ c ∈ cs, Counted arrivals c (key c) (document c)) :
    ∃ t, cs.foldlM (fun t c => t.add (.text c.component) (document c)) empty = .ok t ∧
      Sums (cs.flatMap (onCell arrivals)) (cs.foldl (addCell arrivals) []) t := by
  induction cs using List.reverseRecOn with
  | nil => exact ⟨empty, rfl, rfl, rfl, rfl, .none rfl, .none rfl⟩
  | append_singleton cs c ih =>
    obtain ⟨hcs, hc⟩ := List.forall_mem_append.mp counted
    obtain ⟨t, ht, sums⟩ := ih hcs
    obtain ⟨t', ht', sums'⟩ := add_ok sums (hc c (List.mem_singleton_self c))
    refine ⟨t', ?_, ?_⟩
    · rw [List.foldlM_append, ht]
      simp only [List.foldlM_cons, List.foldlM_nil, bind, Except.bind, ht']
      rfl
    · rw [List.flatMap_append, List.flatMap_singleton, List.foldl_append]
      exact sums'

end Tally

/-! ### Components -/

theorem namedComponents_onCell (arrivals : List Arrival) (c : Cell) :
    namedComponents (onCell arrivals c) = if c.component = "" then []
      else List.replicate (onCell arrivals c).length c.component := by
  have same : (onCell arrivals c).map (·.component) =
      List.replicate (onCell arrivals c).length c.component := by
    refine List.eq_replicate_iff.mpr ⟨List.length_map _, List.forall_mem_map.mpr fun a ha => ?_⟩
    rw [← of_decide_eq_true (List.mem_filter.mp ha).2]
    rfl
  rw [namedComponents, same, List.filter_replicate]
  by_cases unnamed : c.component = "" <;> simp [unnamed]

theorem foldl_addCell (arrivals : List Arrival) (cs : List Cell) :
    cs.foldl (Tally.addCell arrivals) [] =
      ((cs.filter fun c => c.component ≠ "").map (·.component)).eraseDups.map fun name =>
        (.text name, (((cs.filter fun c => c.component ≠ "").filter fun c =>
          c.component = name).map fun c => ((onCell arrivals c).length : Int)).sum) := by
  rw [← Table.foldl_total Datum.text_beq_text, List.foldl_filter]
  congr 1
  funext components c
  by_cases unnamed : c.component = "" <;> simp [Tally.addCell, unnamed]

theorem count_namedComponents (arrivals : List Arrival) (cs : List Cell) (name : String) :
    (((cs.filter fun c => c.component ≠ "").filter fun c => c.component = name).map
      fun c => ((onCell arrivals c).length : Int)).sum =
        (namedComponents (cs.flatMap (onCell arrivals))).count name := by
  rw [namedComponents_flatMap]
  induction cs with
  | nil => rfl
  | cons c rest ih =>
    rw [List.flatMap_cons, List.count_append, namedComponents_onCell, Int.natCast_add, ← ih]
    by_cases unnamed : c.component = ""
    · simp [unnamed]
    · by_cases same : c.component = name
      · subst same
        simp [unnamed]
      · simp [unnamed, same, List.count_replicate]

/-- The components of the cells are those that are named in the messages of the cells. -/
theorem components_perm {arrivals : List Arrival} {cs : List Cell}
    (occur : ∀ c ∈ cs, onCell arrivals c ≠ []) :
    (cs.foldl (Tally.addCell arrivals) []).Perm
      (occurrences (namedComponents (cs.flatMap (onCell arrivals)))) := by
  simp only [foldl_addCell, count_namedComponents, occurrences]
  refine List.Perm.map _ ((List.perm_ext_iff_of_nodup (Table.nodup_eraseDups _)
    (Table.nodup_eraseDups _)).mpr fun name => ?_)
  rw [List.mem_eraseDups, List.mem_eraseDups, namedComponents_flatMap, List.mem_flatMap]
  have named (c : Cell) (hc : c ∈ cs) : name ∈ namedComponents (onCell arrivals c) ↔
      c.component ≠ "" ∧ c.component = name := by
    rw [namedComponents_onCell]
    have some : (onCell arrivals c).length ≠ 0 := fun none =>
      occur c hc (List.eq_nil_of_length_eq_zero none)
    by_cases unnamed : c.component = "" <;> simp [unnamed, some, eq_comm]
  constructor
  · intro h
    obtain ⟨c, hc, rfl⟩ := List.mem_map.mp h
    obtain ⟨hc, hname⟩ := List.mem_filter.mp hc
    exact ⟨c, hc, (named c hc).mpr ⟨of_decide_eq_true hname, rfl⟩⟩
  · rintro ⟨c, hc, h⟩
    obtain ⟨hname, rfl⟩ := (named c hc).mp h
    exact List.mem_map_of_mem (List.mem_filter.mpr ⟨hc, decide_eq_true hname⟩)

/-! ### Days -/

/-- A day of one kind of message, as the rows of the database have it. -/
def bucketOf (s : Slot) : Bucket := ⟨s.deviceId, .text s.type, .text (Date.ofOrdinal s.day).text⟩

theorem bucketOf_beq (s t : Slot) : (bucketOf s == bucketOf t) = decide (s = t) := by
  obtain ⟨i, s, d⟩ := s
  obtain ⟨j, t, e⟩ := t
  have days : (Date.ofOrdinal d).text = (Date.ofOrdinal e).text ↔ d = e :=
    ⟨fun h => Fin.ext (Date.text_inj d.isLt e.isLt h), fun h => by rw [h]⟩
  show (i == j && Datum.text s == .text t && Datum.text _ == .text _) = _
  rw [Bool.eq_iff_iff]
  simp [days, and_assoc]

theorem below_bucketOf (s t : Slot) :
    (bucketOf s).below (bucketOf t) = .ok (decide (s.key < t.key)) := by
  have days : Datum.keyBelow [.text (Date.ofOrdinal s.day).text]
      [.text (Date.ofOrdinal t.day).text] = .ok (decide (s.day < t.day)) := by
    simp only [Datum.keyBelow_text, Date.text_lt_text_iff s.day.isLt t.day.isLt, Fin.val_fin_lt]
  exact Datum.keyBelow_int_lex (Datum.keyBelow_text_lex days _ _) _ _

theorem addRow_of_counts {arrivals : List Arrival} {c : Cell} {key d : Document} {row : Datum}
    (isRow : row = .record d) (isKey : d.get? "_id" = some (.record key))
    (counted : Counted arrivals c key d) (table : Table Bucket Tally) :
    addRow table row = do
      let t ← ((table.get? (bucketOf c.slot)).getD .empty).add (.text c.component) d
      return table.set (bucketOf c.slot) t := by
  have hkey : Bucket.keyOf d = .ok key := by
    rw [Bucket.keyOf, Document.need, isKey]
    rfl
  have hbucket : Bucket.ofKey key = .ok (bucketOf c.slot) := by
    simp only [Bucket.ofKey, Document.needInteger, Document.need, counted.deviceId, counted.type,
      counted.day]
    rfl
  have hcomponent : key.optional "component" = .text c.component := by
    rw [Document.optional, counted.component]
    rfl
  simp only [addRow, isRow, Document.ofDatum, hkey, hbucket, hcomponent, bind, Except.bind]

/-- The rows of the cells of a day amount to its messages. -/
theorem volume_ok {arrivals : List Arrival} {cells : List Cell} (once : cells.Nodup)
    (each : ∀ c, c ∈ cells ↔ ∃ a ∈ arrivals, a.cell = c) {key document : Cell → Document}
    (counted : ∀ c ∈ cells, Counted arrivals c (key c) (document c)) (s : Slot) :
    ∃ t v, (cells.filter fun c => c.slot = s).foldlM
        (fun t c => Tally.add t (.text c.component) (document c)) .empty = .ok t ∧
      Bucket.volume (bucketOf s) t = .ok v ∧ SumsUp (onSlot arrivals s) s v := by
  have among : ∀ c ∈ cells.filter fun c => c.slot = s, c ∈ cells := fun c hc =>
    (List.mem_filter.mp hc).1
  obtain ⟨t, ht, sums⟩ := Tally.foldlM_add fun c hc => counted c (among c hc)
  -- the cells of the day share out its messages
  have shared : ((cells.filter fun c => c.slot = s).flatMap (onCell arrivals)).Perm
      (onSlot arrivals s) := by
    have perm := flatMap_filter_perm Arrival.cell arrivals (once.filter fun c => c.slot = s)
    have same : (arrivals.filter fun a => a.cell ∈ cells.filter fun c => c.slot = s) =
        onSlot arrivals s := by
      refine List.filter_congr fun a ha => ?_
      have hcell : a.cell ∈ cells := (each _).mpr ⟨a, ha, rfl⟩
      simp only [List.mem_filter, hcell, true_and, decide_eq_true_eq]
      rfl
    rwa [same] at perm
  have occur : ∀ c ∈ cells.filter fun c => c.slot = s, onCell arrivals c ≠ [] := by
    intro c hc
    obtain ⟨a, ha, hcell⟩ := (each c).mp (among c hc)
    exact List.ne_nil_of_mem (List.mem_filter.mpr ⟨ha, decide_eq_true hcell⟩)
  refine ⟨t, ⟨.int s.deviceId, .text s.type, Date.ofOrdinal s.day, t.total, t.critical,
    t.components, t.firstCritical, t.lastCritical⟩, ht, ?_, SumsUp.perm shared ?_⟩
  · simp only [Bucket.volume, Bucket.date, bucketOf, readDay_text s.day.isLt]
    rfl
  · exact ⟨rfl, rfl, rfl, sums.total, sums.critical, sums.components ▸ components_perm occur,
      sums.firstCritical, sums.lastCritical⟩

/-- The volumes that the database's counts of well-formed messages amount to sum the messages up,
day by day. -/
theorem dailyVolumes_counts {arrivals : List Arrival} {cells : List Cell} (once : cells.Nodup)
    (each : ∀ c, c ∈ cells ↔ ∃ a ∈ arrivals, a.cell = c) {row : Cell → Datum}
    (counts : ∀ c ∈ cells, Counts arrivals c (row c)) : ∃ volume : Slot → DailyVolume,
      Mongo.dailyVolumes (cells.map row) = .ok ((slots arrivals).map volume) ∧
      ∀ s, SumsUp (onSlot arrivals s) s (volume s) := by
  choose! key document isRow isKey counted using counts
  choose tally volume htally hvolume sums using volume_ok once each counted
  refine ⟨volume, ?_, sums⟩
  have table : (cells.map row).foldlM addRow [] =
      .ok (((cells.map Cell.slot).eraseDups).map fun s => (bucketOf s, tally s)) := by
    rw [← Table.foldlM_gather bucketOf_beq Cell.slot htally, List.foldlM_map]
    exact foldlM_congr
      (fun t c hc => addRow_of_counts (isRow c hc) (isKey c hc) (counted c hc) t) []
  have sorted : Sorting.ascending (fun a b => Bucket.below a.1 b.1)
      (((cells.map Cell.slot).eraseDups).map fun s => (bucketOf s, tally s)) =
        .ok ((slots arrivals).map fun s => (bucketOf s, tally s)) := by
    have days : (cells.map Cell.slot).eraseDups.Perm (arrivals.map Arrival.slot).eraseDups := by
      refine (List.perm_ext_iff_of_nodup (Table.nodup_eraseDups _)
        (Table.nodup_eraseDups _)).mpr fun s => ?_
      simp only [List.mem_eraseDups, List.mem_map, each]
      constructor
      · rintro ⟨_, ⟨a, ha, rfl⟩, rfl⟩
        exact ⟨a, ha, rfl⟩
      · rintro ⟨a, ha, rfl⟩
        exact ⟨a.cell, ⟨a, ha, rfl⟩, rfl⟩
    rw [slots, ← Sorting.mergeSort_key_congr Slot.key_injective days]
    exact Sorting.ascending_map fun s _ t _ => below_bucketOf s t
  have volumes : ((slots arrivals).map fun s => (bucketOf s, tally s)).mapM
      (fun row => row.1.volume row.2) = .ok ((slots arrivals).map volume) := by
    rw [List.mapM_map]
    exact mapM_eq_ok fun s _ => hvolume s
  simp only [Mongo.dailyVolumes, table, sorted, bind, Except.bind, Except.mapError, volumes]

end Mongo

end DeviceAlerts
