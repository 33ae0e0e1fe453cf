import DeviceAlerts.Proofs.Mongo.Attempt
import DeviceAlerts.Proofs.Mongo.Tally
import DeviceAlerts.Store

/-! Both stores tell the same daily volumes, provided that the database counts what it is asked to
count. It may tell its counts in any order. -/

namespace DeviceAlerts.Mongo

open DeviceAlerts.Number DeviceAlerts.Store DeviceAlerts.Time

/-- Of the same well-formed messages the store in the database tells the volumes that the store in
memory tells, in the same order, once the database answers with one row for each device, type, day
and component that occurs. -/
theorem dailyVolumes_alike {σ δ : Type} {answer : (c : mongo.Call) → σ → mongo.Answer c × σ}
    {view : σ → δ} (reachable : Reachable answer view) {arrivals : List Arrival} {since : Moment}
    (placed : since.isPlaced = true) {cells : List Cell} (once : cells.Nodup)
    (each : ∀ c, c ∈ cells ↔ ∃ a ∈ recent arrivals since, a.cell = c) {row : Cell → Datum}
    (counts : ∀ c ∈ cells, Counts (recent arrivals since) c (row c)) {uri : String}
    {limit : Option Binary64} {s : σ}
    (aggregated : ∀ t, view t = view s →
      (answer (.drive (.aggregate .messages (.dailyTallies since)) limit) t).1 =
        .ok (cells.map row))
    {store : Store} (stored : store.messages = arrivals.map Arrival.message) (now : Moment) :
    ∃ counted volumes,
      ((perform uri limit (.dailyVolumes since)).run answer s).1 = .ok counted ∧
      (store.perform now (.dailyVolumes since)).1 = .ok volumes ∧
      List.Forall₂ Alike counted volumes := by
  obtain ⟨inDatabase, hdatabase, sumsInDatabase⟩ := dailyVolumes_counts once each counts
  obtain ⟨inMemory, hmemory, sumsInMemory⟩ := dailyVolumes_message arrivals placed
  refine ⟨(slots (recent arrivals since)).map inDatabase,
    (slots (recent arrivals since)).map inMemory, ?_, ?_, ?_⟩
  · let access : Access := ⟨uri, (Call.dailyVolumes since).name, limit⟩
    obtain ⟨t, hview, hanswer⟩ := access.outcome_request reachable
      (.aggregate .messages (.dailyTallies since)) s
    rw [aggregated t hview] at hanswer
    have run : (access.dailyVolumes since).outcome answer s =
        (Attempt.ofExcept (dailyVolumes (cells.map row))).outcome answer _ :=
      Attempt.outcome_bind_ok answer hanswer
    exact (congrArg Prod.fst run).trans hdatabase
  · rw [← stored] at hmemory
    exact hmemory
  · rw [List.forall₂_map_left_iff, List.forall₂_map_right_iff, List.forall₂_same]
    exact fun s _ => (sumsInDatabase s).alike (sumsInMemory s)

/-! A pump reports twice on a day, the second time from a clock two hours ahead of UTC; a message
without a component comes in between, and an older one is no longer asked for. -/

/-- The beginning of the twenty-ninth of February 2024. -/
def pumpDay : Int := 738944 * microsPerDay

def pumped : List Arrival :=
  [⟨3, .text "low", "state", .text "info", "pump", ⟨pumpDay - 1, some 0⟩, rfl, by decide⟩,
    ⟨3, .text "off", "state", .text "critical", "pump", ⟨pumpDay + 60, some 0⟩, rfl, by decide⟩,
    ⟨3, .text "up", "state", .text "info", "", ⟨pumpDay + 90, some 0⟩, rfl, by decide⟩,
    ⟨3, .text "off", "state", .text "critical", "pump",
      ⟨pumpDay + 7200000000 + 120, some 7200000000⟩, rfl, by decide⟩]

def pumpSlot : Slot := ⟨3, "state", ⟨738944, by decide⟩⟩

/-- The row of a component, with so many messages all of which are critical or none. -/
def pumpRow (component : String) (total critical : Int) (first last : Datum) : Datum :=
  .record [("_id", .record [("deviceId", .int 3), ("messageType", .text "state"),
      ("day", .text "2024-02-29"), ("component", .text component)]),
    ("total", .int total), ("critical", .int critical), ("firstCritical", first),
    ("lastCritical", last)]

def pumpRows (c : Cell) : Datum :=
  if c.component = "" then pumpRow "" 1 0 .null .null
  else pumpRow "pump" 2 2 (.moment ⟨pumpDay + 60, some 0⟩) (.moment ⟨pumpDay + 120, some 0⟩)

/-- A database that is connected and has the same rows for every pipeline. -/
def telling (rows : List Datum) : (c : mongo.Call) → Unit → mongo.Answer c × Unit
  | .isConnected, s => (true, s)
  | .drive (.aggregate _ _) _, s => (.ok rows, s)
  | .drive (.connect _) _, s => (.ok (), s)
  | .drive _ _, s => (.error (.broken "no such request"), s)
  | .now, s => (⟨pumpDay, some 0⟩, s)
  | .tell _, s => ((), s)

theorem dailyVolumes_alike_pumped : ∃ counted volumes,
    ((perform "" none (.dailyVolumes ⟨pumpDay, some 0⟩)).run
      (telling ([⟨pumpSlot, ""⟩, ⟨pumpSlot, "pump"⟩].map pumpRows)) ()).1 = .ok counted ∧
    (Store.perform ⟨.empty, .empty, pumped.map Arrival.message⟩ ⟨pumpDay, some 0⟩
      (.dailyVolumes ⟨pumpDay, some 0⟩)).1 = .ok volumes ∧
    List.Forall₂ Alike counted volumes := by
  have reachable : Reachable (telling ([⟨pumpSlot, ""⟩, ⟨pumpSlot, "pump"⟩].map pumpRows)) id :=
    ⟨fun _ => rfl, fun _ _ _ => rfl, fun _ _ _ => rfl⟩
  have cells : (recent pumped ⟨pumpDay, some 0⟩).map Arrival.cell =
      [⟨pumpSlot, "pump"⟩, ⟨pumpSlot, ""⟩, ⟨pumpSlot, "pump"⟩] := by decide +kernel
  have each : ∀ c, c ∈ [(⟨pumpSlot, ""⟩ : Cell), ⟨pumpSlot, "pump"⟩] ↔
      ∃ a ∈ recent pumped ⟨pumpDay, some 0⟩, a.cell = c := by
    intro c
    rw [← List.mem_map, cells]
    simp only [List.mem_cons, List.not_mem_nil, or_false]
    tauto
  have instants : criticalInstants (onCell (recent pumped ⟨pumpDay, some 0⟩)
      ⟨pumpSlot, "pump"⟩) = [pumpDay + 60, pumpDay + 120] := by decide +kernel
  have counts : ∀ c ∈ [(⟨pumpSlot, ""⟩ : Cell), ⟨pumpSlot, "pump"⟩],
      Counts (recent pumped ⟨pumpDay, some 0⟩) c (pumpRows c) := by
    refine List.forall_mem_cons.mpr ⟨?_, List.forall_mem_singleton.mpr ?_⟩
    · exact ⟨_, _, rfl, rfl, rfl, rfl, by decide +kernel, rfl, by decide +kernel,
        by decide +kernel, .none (by decide +kernel), .none (by decide +kernel)⟩
    · refine ⟨_, _, rfl, rfl, rfl, rfl, by decide +kernel, rfl, by decide +kernel,
        by decide +kernel, .some rfl ?_ ?_, .some rfl ?_ ?_⟩ <;> rw [instants] <;> decide
  exact dailyVolumes_alike reachable rfl (by decide) each counts (fun _ _ => rfl) rfl _

end DeviceAlerts.Mongo
