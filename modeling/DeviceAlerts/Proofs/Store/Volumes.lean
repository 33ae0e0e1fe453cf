import DeviceAlerts.Proofs.Datum.Order
import DeviceAlerts.Proofs.Gathering
import DeviceAlerts.Proofs.Sorting
import DeviceAlerts.Store.Messages
import Mathlib.Order.Fin.Basic

/-! The daily volumes of messages that are well formed. Such a message is from a device with a
number, its type and component are texts, and it came in at a known instant on a day that UTC has.
Then nothing fails: every day of a kind of message gets one volume, in order, and the volume sums
up the messages of that day. -/

namespace DeviceAlerts.Store

open DeviceAlerts.Time

/-! ### Well-formed messages -/

/-- A stored message that is well formed. -/
structure Arrival where
  deviceId : Int
  text : Datum
  type : String
  severity : Datum
  component : String
  received : Moment
  placed : received.isPlaced = true
  inRange : Moment.inRange received.instant = true

/-- A day of one kind of message from one device. -/
structure Slot where
  deviceId : Int
  type : String
  day : Fin dayCount
  deriving DecidableEq

namespace Slot

/-- By device, then by type, then by day. -/
def key (s : Slot) : Int ×ₗ String ×ₗ Fin dayCount := toLex (s.deviceId, toLex (s.type, s.day))

theorem key_injective : Function.Injective key := by
  rintro ⟨i, s, d⟩ ⟨j, t, e⟩ h
  obtain ⟨rfl, h⟩ := Prod.mk.inj (toLex_inj.mp h)
  obtain ⟨rfl, rfl⟩ := Prod.mk.inj (toLex_inj.mp h)
  rfl

def bucket (s : Slot) : Bucket := ⟨.int s.deviceId, .text s.type, s.day⟩

theorem bucket_beq (s t : Slot) : (s.bucket == t.bucket) = decide (s = t) := by
  obtain ⟨i, s, d⟩ := s
  obtain ⟨j, t, e⟩ := t
  show (Datum.int i == .int j && Datum.text s == .text t && d.val == e.val) = _
  rw [Bool.eq_iff_iff]
  simp [Fin.val_inj, and_assoc]

theorem below_bucket (s t : Slot) :
    s.bucket.below t.bucket = .ok (decide (s.key < t.key)) := by
  have days : Datum.keyBelow [.int s.day.val] [.int t.day.val] = .ok (decide (s.day < t.day)) := by
    simp only [Datum.keyBelow_int, Int.ofNat_lt, Fin.val_fin_lt]
  exact Datum.keyBelow_int_lex (Datum.keyBelow_text_lex days _ _) _ _

end Slot

namespace Arrival

variable (a : Arrival)

def message : Message :=
  ⟨.int a.deviceId, a.text, .text a.type, a.severity, .text a.component, .moment a.received⟩

/-- The day in UTC on which the message came in. -/
def day : Fin dayCount :=
  ⟨(a.received.instant / Int.ofNat microsPerDay).toNat, by
    have h := a.inRange
    simp only [Moment.inRange, Bool.and_eq_true, decide_eq_true_eq] at h
    have positive : (0 : Int) < Int.ofNat microsPerDay := by decide
    rw [Int.toNat_lt (Int.ediv_nonneg h.1 positive.le)]
    exact Int.ediv_lt_of_lt_mul positive (by simpa using h.2)⟩

def slot : Slot := ⟨a.deviceId, a.type, a.day⟩

def isCritical : Bool := a.severity == .text Message.criticalSeverity

/-- Whether the message came in at an instant or later. -/
def isSince (since : Moment) : Bool := decide (since.instant ≤ a.received.instant)

theorem ofMessage_message : Bucket.ofMessage a.message = .ok a.slot.bucket := by
  have h : a.received.utcDay = .ok a.day.val := by
    simp [Moment.utcDay, Moment.toUtc, Moment.make?, a.inRange, Except.map, day]
  simp only [Bucket.ofMessage, message, Bucket.dayOf, h]
  rfl

theorem addToBucket_message {since : Moment} (placed : since.isPlaced = true)
    (table : Table Bucket (List Message)) : addToBucket since table a.message =
      .ok (if a.isSince since then
        table.modify a.slot.bucket fun old => old.getD [] ++ [a.message] else table) := by
  have h : a.message.received.stands .notBelow (.moment since) = .ok (a.isSince since) := by
    rw [message, Datum.stands_moment _ a.placed placed, Relation.admits_notBelow, isSince]
  simp only [addToBucket, h, ofMessage_message]
  cases a.isSince since <;> rfl

end Arrival

/-! ### What a volume sums up -/

/-- The instants at which critical messages came in. -/
def criticalInstants (arrivals : List Arrival) : List Int :=
  (arrivals.filter (·.isCritical)).map (·.received.instant)

/-- The components that are named, once for every message. -/
def namedComponents (arrivals : List Arrival) : List String :=
  (arrivals.map (·.component)).filter (· ≠ "")

theorem criticalInstants_append (xs ys : List Arrival) :
    criticalInstants (xs ++ ys) = criticalInstants xs ++ criticalInstants ys := by
  simp [criticalInstants]

theorem criticalInstants_flatMap {ι : Type} (part : ι → List Arrival) (keys : List ι) :
    criticalInstants (keys.flatMap part) = keys.flatMap fun k => criticalInstants (part k) := by
  simp only [criticalInstants, List.filter_flatMap, List.map_flatMap]

theorem namedComponents_flatMap {ι : Type} (part : ι → List Arrival) (keys : List ι) :
    namedComponents (keys.flatMap part) = keys.flatMap fun k => namedComponents (part k) := by
  simp only [namedComponents, List.map_flatMap, List.filter_flatMap]

theorem criticalInstants_perm {arrivals others : List Arrival} (same : arrivals.Perm others) :
    (criticalInstants arrivals).Perm (criticalInstants others) :=
  (same.filter _).map _

theorem namedComponents_perm {arrivals others : List Arrival} (same : arrivals.Perm others) :
    (namedComponents arrivals).Perm (namedComponents others) :=
  (same.map _).filter _

/-- How often each of several names comes. -/
def occurrences (names : List String) : Table Datum Int :=
  names.eraseDups.map fun name => (.text name, (names.count name : Int))

/-- A volume sums up the messages of a day. -/
structure SumsUp (arrivals : List Arrival) (s : Slot) (v : DailyVolume) : Prop where
  deviceId : v.deviceId = .int s.deviceId
  type : v.type = .text s.type
  day : v.day = Date.ofOrdinal s.day
  total : v.total = arrivals.length
  critical : v.critical = (criticalInstants arrivals).length
  components : v.components.Perm (occurrences (namedComponents arrivals))
  firstCritical : Datum.Extreme (· ≤ ·) (criticalInstants arrivals) v.firstCritical
  lastCritical : Datum.Extreme (· ≥ ·) (criticalInstants arrivals) v.lastCritical

/-- Volumes count the same, in whatever order they have the components. -/
structure Alike (v w : DailyVolume) : Prop where
  deviceId : v.deviceId = w.deviceId
  type : v.type = w.type
  day : v.day = w.day
  total : v.total = w.total
  critical : v.critical = w.critical
  components : v.components.Perm w.components
  firstCritical : (v.firstCritical == w.firstCritical) = true
  lastCritical : (v.lastCritical == w.lastCritical) = true

namespace SumsUp

variable {arrivals : List Arrival} {s : Slot} {v w : DailyVolume}

/-- The messages of a day may be given in any order. -/
theorem perm {others : List Arrival} (same : arrivals.Perm others) (h : SumsUp arrivals s v) :
    SumsUp others s v := by
  have critical := criticalInstants_perm same
  have named := namedComponents_perm same
  have components : (occurrences (namedComponents arrivals)).Perm
      (occurrences (namedComponents others)) := by
    simp only [occurrences, named.count_eq]
    refine List.Perm.map _ ((List.perm_ext_iff_of_nodup (Table.nodup_eraseDups _)
      (Table.nodup_eraseDups _)).mpr fun name => ?_)
    rw [List.mem_eraseDups, List.mem_eraseDups, named.mem_iff]
  exact ⟨h.deviceId, h.type, h.day, same.length_eq ▸ h.total, critical.length_eq ▸ h.critical,
    h.components.trans components, h.firstCritical.perm critical, h.lastCritical.perm critical⟩

/-- Volumes that sum up the same messages count the same. -/
theorem alike (hv : SumsUp arrivals s v) (hw : SumsUp arrivals s w) : Alike v w :=
  ⟨hv.deviceId.trans hw.deviceId.symm, hv.type.trans hw.type.symm, hv.day.trans hw.day.symm,
    hv.total.trans hw.total.symm, hv.critical.trans hw.critical.symm,
    hv.components.trans hw.components.symm, hv.firstCritical.alike hw.firstCritical,
    hv.lastCritical.alike hw.lastCritical⟩

end SumsUp

theorem tally_text (names : List String) :
    tally (names.map .text) = .ok (occurrences names) := by
  have counts (name : String) :
      ((names.filter fun x => x = name).map fun _ => (1 : Int)).sum = names.count name := by
    rw [List.map_const', List.sum_replicate, ← List.countP_eq_length_filter, List.count]
    simp [beq_eq_decide]
  have h := Table.foldl_total Datum.text_beq_text id (fun _ => 1) names
  simp only [id_eq, List.map_id_fun, counts] at h
  rw [tally, List.foldlM_map, occurrences, ← h]
  exact foldlM_eq_ok (fun _ _ _ => rfl) _

theorem volume_ok (s : Slot) (arrivals : List Arrival) :
    ∃ v, s.bucket.volume (arrivals.map Arrival.message) = .ok v ∧ SumsUp arrivals s v := by
  have critical : ((arrivals.map Arrival.message).filter fun m =>
      m.severity == .text Message.criticalSeverity).map (·.received) =
        ((arrivals.filter (·.isCritical)).map (·.received)).map .moment := by
    rw [List.filter_map, List.map_map, List.map_map]
    rfl
  have components : ((arrivals.map Arrival.message).map (·.component)).filter Datum.isTruthy =
      (namedComponents arrivals).map .text := by
    rw [namedComponents, List.map_map, List.filter_map, List.filter_map, List.map_map]
    congr 1
    exact List.filter_congr fun a _ => by simp [Arrival.message, Datum.isTruthy, bne, beq_eq_decide]
  have placed : ∀ m ∈ (arrivals.filter (·.isCritical)).map (·.received), m.isPlaced = true :=
    List.forall_mem_map.mpr fun a _ => a.placed
  obtain ⟨first, hfirst, isFirst⟩ := Datum.extreme_least? placed
  obtain ⟨last, hlast, isLast⟩ := Datum.extreme_greatest? placed
  rw [List.map_map] at isFirst isLast
  refine ⟨⟨.int s.deviceId, .text s.type, Date.ofOrdinal s.day, arrivals.length,
    (criticalInstants arrivals).length, occurrences (namedComponents arrivals), first.getD .null,
    last.getD .null⟩, ?_, rfl, rfl, rfl, rfl, rfl, .refl _, isFirst, isLast⟩
  simp only [Bucket.volume, critical, components, tally_text, hfirst, hlast, List.length_map,
    criticalInstants]
  rfl

/-! ### All volumes -/

/-- The days on which messages of several came in, each once and in order. -/
def slots (arrivals : List Arrival) : List Slot :=
  (arrivals.map Arrival.slot).eraseDups.mergeSort fun s t => decide (s.key ≤ t.key)

theorem mem_slots {arrivals : List Arrival} {s : Slot} :
    s ∈ slots arrivals ↔ ∃ a ∈ arrivals, a.slot = s := by
  simp [slots]

theorem nodup_slots (arrivals : List Arrival) : (slots arrivals).Nodup :=
  (List.mergeSort_perm _ _).nodup_iff.mpr (Table.nodup_eraseDups _)

/-- The messages that came in from an instant on. -/
def recent (arrivals : List Arrival) (since : Moment) : List Arrival :=
  arrivals.filter (·.isSince since)

/-- The messages of one day. -/
def onSlot (arrivals : List Arrival) (s : Slot) : List Arrival :=
  arrivals.filter fun a => a.slot = s

def Slot.row (arrivals : List Arrival) (s : Slot) : Bucket × List Message :=
  (s.bucket, (onSlot arrivals s).map Arrival.message)

theorem buckets_message (arrivals : List Arrival) {since : Moment}
    (placed : since.isPlaced = true) : buckets (arrivals.map Arrival.message) since =
      .ok (((recent arrivals since).map Arrival.slot).eraseDups.map
        (Slot.row (recent arrivals since))) := by
  have grouped := Table.foldl_group Slot.bucket_beq Arrival.slot Arrival.message
    (recent arrivals since)
  rw [recent, List.foldl_filter] at grouped
  rw [buckets, List.foldlM_map]
  exact (foldlM_eq_ok (fun table a _ => a.addToBucket_message placed table) []).trans
    (congrArg Except.ok grouped)

/-- Every day on which well-formed messages came in gets one volume, which sums them up. -/
theorem dailyVolumes_message (arrivals : List Arrival) {since : Moment}
    (placed : since.isPlaced = true) : ∃ volume : Slot → DailyVolume,
      dailyVolumes (arrivals.map Arrival.message) since =
        .ok ((slots (recent arrivals since)).map volume) ∧
      ∀ s, SumsUp (onSlot (recent arrivals since) s) s (volume s) := by
  choose volume hvolume sums using fun s => volume_ok s (onSlot (recent arrivals since) s)
  refine ⟨volume, ?_, sums⟩
  have sorted : Sorting.ascending (fun a b => Bucket.below a.1 b.1)
      (((recent arrivals since).map Arrival.slot).eraseDups.map
        (Slot.row (recent arrivals since))) =
      .ok ((slots (recent arrivals since)).map (Slot.row (recent arrivals since))) :=
    Sorting.ascending_map fun s _ t _ => s.below_bucket t
  have volumes : ((slots (recent arrivals since)).map (Slot.row (recent arrivals since))).mapM
      (fun row => row.1.volume row.2) = .ok ((slots (recent arrivals since)).map volume) := by
    rw [List.mapM_map]
    exact mapM_eq_ok fun s _ => hvolume s
  simp only [dailyVolumes, buckets_message arrivals placed, sorted, bind, Except.bind,
    Except.mapError, volumes]

end DeviceAlerts.Store
