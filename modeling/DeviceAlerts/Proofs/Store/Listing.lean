import DeviceAlerts.Proofs.Datum.Order
import DeviceAlerts.Proofs.Sorting
import DeviceAlerts.Store
import Mathlib.Data.List.FinRange
import Mathlib.Data.List.Permutation

/-! Lists of messages. Of the messages that a query asks for the newest come first, those of one
instant in the order in which they were inserted, and the limit cuts the list off there. Messages
may be equal, so what is said of a list is said of places in the order of insertion. -/

namespace DeviceAlerts.Store

open DeviceAlerts.Time

/-! ### What is inserted -/

/-- A message from a device with a number that came in at a known instant. -/
structure Receipt where
  deviceId : Int
  text : Datum
  type : Datum
  severity : Datum
  component : Datum
  received : Moment
  placed : received.isPlaced = true

namespace Receipt

def message (r : Receipt) : Message :=
  ⟨.int r.deviceId, r.text, r.type, r.severity, r.component, .moment r.received⟩

def instant (r : Receipt) : Int := r.received.instant

end Receipt

def Call.inserted? : Call → Option Message
  | insertMessage m => some m
  | _ => none

/-- The store after calls that are made one after the other, each at its time. -/
def after (calls : List (Moment × Call)) : Store :=
  calls.foldl (fun s c => (s.perform c.1 c.2).2) .empty

theorem messages_perform (s : Store) (now : Moment) (c : Call) :
    (s.perform now c).2.messages = s.messages ++ c.inserted?.toList := by
  cases c <;> simp [perform, Call.inserted?]

/-- The store holds the messages that have been inserted, in their order. -/
theorem messages_after (calls : List (Moment × Call)) :
    (after calls).messages = calls.filterMap fun c => c.2.inserted? := by
  have general (s : Store) : (calls.foldl (fun s c => (s.perform c.1 c.2).2) s).messages =
      s.messages ++ calls.filterMap fun c => c.2.inserted? := by
    induction calls generalizing s with
    | nil => exact (List.append_nil _).symm
    | cons c rest ih =>
      rw [List.foldl_cons, ih, messages_perform, List.append_assoc, List.filterMap_cons]
      cases c.2.inserted? <;> rfl
  exact general .empty

/-! ### What is asked for -/

/-- A query with bounds at known instants. -/
structure Inquiry where
  deviceId : Option Int
  start : Option Moment
  stop : Option Moment
  limit : Int
  placed : ∀ bound, start = some bound ∨ stop = some bound → bound.isPlaced = true

namespace Inquiry

variable (q : Inquiry)

def query : Query := ⟨q.deviceId.elim .null .int, q.start, q.stop, .int q.limit⟩

/-- A message is from the device, if one is given, and came in within the bounds that are given. -/
structure Matches (r : Receipt) : Prop where
  deviceId : ∀ i ∈ q.deviceId, r.deviceId = i
  start : ∀ bound ∈ q.start, bound.instant ≤ r.instant
  stop : ∀ bound ∈ q.stop, r.instant ≤ bound.instant

instance (r : Receipt) : Decidable (q.Matches r) :=
  decidable_of_iff ((∀ i ∈ q.deviceId, r.deviceId = i) ∧
      (∀ bound ∈ q.start, bound.instant ≤ r.instant) ∧ ∀ bound ∈ q.stop, r.instant ≤ bound.instant)
    ⟨fun ⟨own, early, late⟩ => ⟨own, early, late⟩, fun h => ⟨h.deviceId, h.start, h.stop⟩⟩

theorem within_ok {r : Relation} {before : Int → Int → Prop} [DecidableRel before]
    (admits : ∀ i j, r.admits (compare i j) = decide (before i j)) {bound : Option Moment}
    (placed : ∀ m ∈ bound, m.isPlaced = true) (receipt : Receipt) :
    Query.within r (.moment receipt.received) bound =
      .ok (decide (∀ m ∈ bound, before receipt.instant m.instant)) := by
  cases bound with
  | none => simp [Query.within]
  | some m =>
    rw [Query.within, Datum.stands_moment r receipt.placed (placed m rfl), admits]
    simp [Receipt.instant]

/-- Nothing fails in finding out whether a message is asked for. -/
theorem admits_message (r : Receipt) : q.query.admits r.message = .ok (decide (q.Matches r)) := by
  have device : (q.query.deviceId = .null ∨ r.message.deviceId == q.query.deviceId) ↔
      ∀ i ∈ q.deviceId, r.deviceId = i := by
    show (q.deviceId.elim Datum.null .int = .null ∨
      (Datum.int r.deviceId == q.deviceId.elim .null .int) = true) ↔ _
    cases q.deviceId <;> simp
  have start : Query.within .notBelow (.moment r.received) q.start =
      .ok (decide (∀ m ∈ q.start, m.instant ≤ r.instant)) :=
    within_ok Relation.admits_notBelow (fun m hm => q.placed m (.inl hm)) r
  have stop : Query.within .notAbove (.moment r.received) q.stop =
      .ok (decide (∀ m ∈ q.stop, r.instant ≤ m.instant)) :=
    within_ok Relation.admits_notAbove (fun m hm => q.placed m (.inr hm)) r
  unfold Query.admits
  by_cases own : ∀ i ∈ q.deviceId, r.deviceId = i
  · rw [if_pos (device.mpr own)]
    show (Query.within .notBelow (.moment r.received) q.start >>= fun inside =>
      if inside then Query.within .notAbove (.moment r.received) q.stop else pure false) = _
    rw [start, stop]
    by_cases early : ∀ m ∈ q.start, m.instant ≤ r.instant
    · rw [decide_eq_true early]
      exact congrArg Except.ok (decide_eq_decide.mpr ⟨fun late => ⟨own, early, late⟩, (·.stop)⟩)
    · rw [decide_eq_false early]
      exact congrArg Except.ok (decide_eq_false fun h => early h.start).symm
  · rw [if_neg (mt device.mp own)]
    exact congrArg Except.ok (decide_eq_false fun h => own h.deviceId).symm

end Inquiry

/-! ### What is listed -/

section

variable (receipts : List Receipt)

/-- Whether the message at one place comes before that at another: it is newer, or it is of the
same instant and was inserted earlier. -/
def Precedes (i j : Fin receipts.length) : Prop :=
  receipts[j].instant < receipts[i].instant ∨
    receipts[i].instant = receipts[j].instant ∧ i < j

/-- The places of the messages that are asked for, in the order in which they are listed. -/
def listing (q : Inquiry) : List (Fin receipts.length) :=
  ((List.finRange receipts.length).filter fun i => q.Matches receipts[i]).mergeSort fun i j =>
    decide (receipts[j].instant ≤ receipts[i].instant)

theorem select_eq (q : Inquiry) : q.query.select (receipts.map Receipt.message) =
    .ok (((listing receipts q).take q.limit.toNat).map fun i => receipts[i].message) := by
  let place (i : Fin receipts.length) : Message := receipts[i].message
  have all : receipts.map Receipt.message = (List.finRange receipts.length).map place := by
    conv_lhs => rw [← List.map_getElem_finRange receipts, List.map_map]
    rfl
  have earlier (r s : Receipt) : Query.earlier r.message s.message =
      .ok (decide (r.instant < s.instant)) := by
    rw [Query.earlier, Receipt.message, Receipt.message, Datum.stands_moment _ r.placed s.placed,
      Relation.admits_below]
    rfl
  have kept : Sorting.keep q.query.admits ((List.finRange receipts.length).map place) =
      .ok (((List.finRange receipts.length).filter fun i => q.Matches receipts[i]).map place) :=
    Sorting.keep_map fun i _ => q.admits_message receipts[i]
  have sorted : Sorting.descending Query.earlier
      (((List.finRange receipts.length).filter fun i => q.Matches receipts[i]).map place) =
        .ok ((listing receipts q).map place) :=
    Sorting.descending_map fun i _ j _ => earlier receipts[i] receipts[j]
  rw [all]
  simp only [Query.select, kept, sorted, bind, Except.bind, Except.mapError]
  exact congrArg Except.ok (List.map_take).symm

theorem mem_listing {q : Inquiry} {i : Fin receipts.length} :
    i ∈ listing receipts q ↔ q.Matches receipts[i] := by
  simp [listing]

theorem nodup_listing (q : Inquiry) : (listing receipts q).Nodup :=
  (List.mergeSort_perm _ _).nodup_iff.mpr ((List.nodup_finRange _).filter _)

theorem length_listing (q : Inquiry) :
    (listing receipts q).length = receipts.countP fun r => q.Matches r := by
  rw [listing, List.length_mergeSort, ← List.countP_eq_length_filter]
  conv_rhs => rw [← List.map_getElem_finRange receipts, List.countP_map]
  rfl

/-- The places are listed in the order in which the messages precede each other. -/
theorem pairwise_listing (q : Inquiry) : (listing receipts q).Pairwise (Precedes receipts) := by
  have stable := @Sorting.pairwise_mergeSort_stable _
    (fun i j : Fin receipts.length => decide (receipts[j].instant ≤ receipts[i].instant))
    (fun i j k hij hjk => decide_eq_true (le_trans (of_decide_eq_true hjk) (of_decide_eq_true hij)))
    (fun i j => by simpa using le_total receipts[j].instant receipts[i].instant) _ _
    ((List.pairwise_lt_finRange receipts.length).filter fun i => q.Matches receipts[i])
  refine stable.imp fun {i j} ⟨notNewer, tie⟩ => ?_
  rcases (of_decide_eq_true notNewer).lt_or_eq with newer | same
  · exact .inl newer
  · exact .inr ⟨same.symm, tie (decide_eq_true same.ge)⟩

end

/-- After any calls that have inserted certain messages, a query lists as many of those that it asks
for as its limit allows, each at most once. They are listed with the newest first, those of one
instant in the order in which they were inserted, and each that is listed comes before every one
that is left out. -/
theorem listMessages_newest_first {calls : List (Moment × Call)} {receipts : List Receipt}
    (inserted : (calls.filterMap fun c => c.2.inserted?) = receipts.map Receipt.message)
    (now : Moment) (q : Inquiry) : ∃ places : List (Fin receipts.length),
      ((after calls).perform now (.listMessages q.query)).1 =
        .ok (places.map fun i => receipts[i].message) ∧
      (places.length : Int) = min (max 0 q.limit) (receipts.countP fun r => q.Matches r) ∧
      places.Nodup ∧ (∀ i ∈ places, q.Matches receipts[i]) ∧
      places.Pairwise (Precedes receipts) ∧
      ∀ i ∈ places, ∀ j ∉ places, q.Matches receipts[j] → Precedes receipts i j := by
  have split := List.take_append_drop q.limit.toNat (listing receipts q)
  have ordered := pairwise_listing receipts q
  rw [← split, List.pairwise_append] at ordered
  obtain ⟨listed, -, across⟩ := ordered
  refine ⟨(listing receipts q).take q.limit.toNat, ?_, ?_, ?_, fun i hi => ?_, listed,
    fun i hi j hj asked => ?_⟩
  · show q.query.select (after calls).messages = _
    rw [messages_after, inserted, select_eq]
  · rw [List.length_take, length_listing]
    omega
  · exact (nodup_listing receipts q).sublist (List.take_sublist _ _)
  · exact (mem_listing receipts).mp (List.mem_of_mem_take hi)
  · have member := (mem_listing receipts).mpr asked
    rw [← split, List.mem_append] at member
    exact across i hi j (member.resolve_left hj)

/-- A message of a device at an hour of its clock, which may be ahead of UTC. -/
def hourly (deviceId : Int) (text : String) (hour ahead : Int) : Receipt :=
  ⟨deviceId, .text text, .text "log", .text "info", .text "core", ⟨hour, some ahead⟩, rfl⟩

/-- Five messages, of which the third and the fourth are of one instant. -/
def fiveHours : List Receipt :=
  [hourly 1 "first" 1 0, hourly 2 "other" 2 0, hourly 1 "ahead" 5 3, hourly 1 "plain" 2 0,
    hourly 1 "last" 9 0]

/-- The messages are inserted one after the other, and a tag is added on the way. -/
def fiveCalls : List (Moment × Call) :=
  (⟨0, some 0⟩, .createTag ⟨.int 1, .text "t", ⟨.text "x", .text "=", .text "x", .int 0⟩,
    .text "T", .text ""⟩) :: fiveHours.map fun r => (r.received, .insertMessage r.message)

/-- Two messages of the first device up to an instant, which is told on another clock. -/
def twoOfFirst : Inquiry where
  deviceId := some 1
  start := none
  stop := some ⟨4, some 2⟩
  limit := 2
  placed bound h := by
    rcases h with h | h
    · cases h
    · cases h
      rfl

theorem listMessages_newest_first_sameInstant :
    let answer := ((after fiveCalls).perform ⟨9, some 0⟩ (.listMessages twoOfFirst.query)).1
    answer = .ok [(hourly 1 "ahead" 5 3).message, (hourly 1 "plain" 2 0).message] ∧
      ∃ places : List (Fin fiveHours.length),
        answer = .ok (places.map fun i => fiveHours[i].message) ∧ places.length = 2 ∧
        places.Pairwise (Precedes fiveHours) := by
  obtain ⟨places, answer, length, -, -, ordered, -⟩ := @listMessages_newest_first
    fiveCalls fiveHours rfl ⟨9, some 0⟩ twoOfFirst
  have three : fiveHours.countP (fun r => twoOfFirst.Matches r) = 3 := by decide
  rw [three] at length
  have two : (places.length : Int) = 2 := length
  exact ⟨by cbv, places, answer, by exact_mod_cast two, ordered⟩

end DeviceAlerts.Store
