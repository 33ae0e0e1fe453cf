import DeviceAlerts.Proofs.Mongo.Database
import Mathlib.Data.List.Nodup
import Mathlib.Data.List.Pairwise

/-! A database that is no more than its documents. It does as a database is documented to do, so
that there is one that does. -/

namespace DeviceAlerts

open DeviceAlerts.Number DeviceAlerts.Time

namespace Mongo

def Collection.kind? : Collection → Option Store.Kind
  | devices => some .devices
  | tags => some .tags
  | messages => some .messages
  | counters => none

namespace Database

def duplicate : Fault := .driver .duplicateKey "duplicate key"

def unsupported : Fault := .driver .operation "not supported"

/-- The number of a document, zero if it has none. -/
def numberOf (d : Document) : Int :=
  match d.get? "id" with
  | some (.int i) => i
  | _ => 0

def sorted (docs : List Document) : List Document :=
  docs.mergeSort fun a b => decide (numberOf a ≤ numberOf b)

variable (db : Database) (kind : Store.Kind)

def insert (d : Document) : Except Fault Unit × Database :=
  if (db.documents kind).any fun e => clash kind e d then (.error duplicate, db)
  else (.ok (), db.put kind (db.documents kind ++ [d]))

def set (i : Int) (fields : List (String × Datum)) : Except Fault Datum × Database :=
  match (db.documents kind).find? (·.hasNumber i) with
  | none => (.ok .null, db)
  | some d =>
    if (db.documents kind).any fun e => !e.hasNumber i && clash kind e (d.setAll fields) then
      (.error duplicate, db)
    else
      (.ok (.record (d.setAll fields)), db.put kind (Document.revise i fields (db.documents kind)))

def delete (i : Int) : Except Fault Datum × Database :=
  (.ok (.int (if (db.documents kind).any (·.hasNumber i) then 1 else 0)),
    db.put kind ((db.documents kind).filter fun d => !d.hasNumber i))

/-- Answers the requests that records with numbers need. -/
def respond : (r : Request) → Except Fault r.Answer × Database
  | .connect _ | .disconnect | .ping _ | .createIndex _ => (.ok (), db)
  | .find on _ _ _ =>
    (.ok ((on.kind?.elim [] fun kind => sorted (db.documents kind)).map .record), db)
  | .findOne on (.number i) =>
    (.ok ((on.kind?.bind fun kind => (db.documents kind).find? (·.hasNumber i)).elim .null .record),
      db)
  | .findAndUpdate .counters (.counter name) .advance =>
    (.ok (.record [("_id", .text name), ("seq", .int (db.count name + 1))]), db.advanced name)
  | .findAndUpdate on (.number i) (.set fields) =>
    on.kind?.elim (.error unsupported, db) fun kind => db.set kind i fields
  | .insert on d => on.kind?.elim (.error unsupported, db) fun kind => db.insert kind d
  | .delete on (.number i) => on.kind?.elim (.error unsupported, db) fun kind => db.delete kind i
  | _ => (.error unsupported, db)

end Database

/-- Answers what a store asks for, at a given time and with a database that is always reached. -/
def answering (now : Moment) : (c : mongo.Call) → Database → mongo.Answer c × Database
  | .isConnected, db => (true, db)
  | .drive r _, db => db.respond r
  | .now, db => (now, db)
  | .tell _, db => ((), db)

theorem Database.numberOf_of_hasNumber {d : Document} {i : Int} (h : d.hasNumber i = true) :
    numberOf d = i := by
  rw [numberOf, of_decide_eq_true h]

/-- Of documents with numbers of their own only one has a given number. -/
theorem Regular.eq_of_hasNumber {kind : Store.Kind} {docs : List Document} (h : Regular kind docs)
    {d e : Document} (hd : d ∈ docs) (he : e ∈ docs) {i : Int} (number : d.hasNumber i = true)
    (same : e.hasNumber i = true) : d = e :=
  List.inj_on_of_nodup_map (List.pairwise_map.mpr h.numbered) hd he
    ((of_decide_eq_true number).trans (of_decide_eq_true same).symm)

theorem Database.pairwise_sorted (docs : List Document) :
    (sorted docs).Pairwise Document.AtMost := by
  have ordered : (sorted docs).Pairwise fun a b => decide (numberOf a ≤ numberOf b) = true :=
    List.pairwise_mergeSort (fun a b c => by simpa using Int.le_trans)
      (fun a b => by simpa using Int.le_total _ _) docs
  refine ordered.imp fun {a b} le i j hi hj => ?_
  rw [← numberOf_of_hasNumber hi, ← numberOf_of_hasNumber hj]
  exact of_decide_eq_true le

section

variable {db : Database} {kind : Store.Kind} {i : Int} {d : Document}
  (stored : d ∈ db.documents kind) (number : d.hasNumber i = true)
  (regular : Regular kind (db.documents kind)) (fields : List (String × Datum))

include stored number regular

theorem Database.set_stored : db.set kind i fields =
    if (db.documents kind).any fun e => !e.hasNumber i && clash kind e (d.setAll fields) then
      (.error duplicate, db)
    else (.ok (.record (d.setAll fields)),
      db.put kind (Document.revise i fields (db.documents kind))) := by
  have found : (db.documents kind).find? (·.hasNumber i) = some d := by
    cases hfound : (db.documents kind).find? (·.hasNumber i) with
    | none => exact absurd number (List.find?_eq_none.mp hfound d stored)
    | some e =>
      exact congrArg some (regular.eq_of_hasNumber (List.mem_of_find?_eq_some hfound) stored
        (List.find?_some hfound) number)
  rw [set, found]

end

theorem clash_comm (kind : Store.Kind) (a b : Document) : clash kind a b = clash kind b a := by
  simp only [clash, @eq_comm _ (Table.get? a _)]

/-- Fields that the unique indexes admit make a document clash with no other. -/
theorem Regular.free_of_revise {kind : Store.Kind} {docs : List Document} {i : Int} {d e : Document}
    {fields : List (String × Datum)} (admitted : Regular kind (Document.revise i fields docs))
    (hd : d ∈ docs) (he : e ∈ docs) (number : d.hasNumber i = true)
    (other : e.hasNumber i = false) : clash kind e (d.setAll fields) = false := by
  let changed (d : Document) : Document := if d.hasNumber i then d.setAll fields else d
  have symmetric : Std.Symm fun a b => clash kind (changed a) (changed b) = false :=
    ⟨fun _ _ free => (clash_comm kind _ _).trans free⟩
  have apart := (List.pairwise_map.mp admitted.apart).forall he hd fun same => by
    rw [same, number] at other
    cases other
  simpa only [other, number, if_true, Bool.false_eq_true, if_false] using apart

theorem documented_answering : Documented answering id where
  reachable now := ⟨fun _ => rfl, fun _ _ _ => rfl, fun _ _ _ => rfl⟩
  clock now db := ⟨rfl, rfl⟩
  lists now db kind regular := by
    rintro limit db rfl
    have perm := List.mergeSort_perm (db.documents kind)
      fun a b => decide (Database.numberOf a ≤ Database.numberOf b)
    refine ⟨⟨_, ?_, perm, Database.pairwise_sorted _⟩, rfl⟩
    cases kind <;> rfl
  finds now db kind regular i := by
    rintro limit db rfl
    cases kind <;> exact ⟨rfl, rfl⟩
  counts now db name := by
    rintro limit db rfl
    exact ⟨⟨_, rfl, rfl⟩, rfl⟩
  inserts now db kind d regular := by
    rintro limit db rfl
    have free : ¬ (db.documents kind).any (fun e => clash kind e d) = true := by
      rw [List.any_eq_true]
      rintro ⟨e, he, taken⟩
      have apart := (List.pairwise_append.mp regular.apart).2.2 e he d (List.mem_singleton_self d)
      rw [taken] at apart
      cases apart
    have run : db.insert kind d = (.ok (), db.put kind (db.documents kind ++ [d])) := if_neg free
    cases kind <;> exact ⟨congrArg Prod.fst run, congrArg Prod.snd run⟩
  refusesInsert now db kind d regular keyed taken := by
    rintro limit db rfl
    have run : db.insert kind d = (.error Database.duplicate, db) :=
      if_pos (List.any_eq_true.mpr taken)
    cases kind <;> exact ⟨⟨_, congrArg Prod.fst run⟩, congrArg Prod.snd run⟩
  misses now db kind i missing fields := by
    rintro limit db rfl
    have run : db.set kind i fields = (.ok .null, db) := by
      rw [Database.set, List.find?_eq_none.mpr fun d hd => by rw [missing d hd]; decide]
    cases kind <;> exact ⟨congrArg Prod.fst run, congrArg Prod.snd run⟩
  sets now db kind i d stored number fields regular admitted := by
    rintro limit db rfl
    have run := Database.set_stored stored number regular fields
    rw [if_neg] at run
    · cases kind <;> exact ⟨congrArg Prod.fst run, congrArg Prod.snd run⟩
    · rw [List.any_eq_true]
      rintro ⟨e, he, taken⟩
      obtain ⟨other, clashes⟩ := Bool.and_eq_true_iff.mp taken
      rw [admitted.free_of_revise stored he number (by simpa using other)] at clashes
      cases clashes
  refusesSet now db kind i d stored number fields regular keyed taken := by
    rintro limit db rfl
    obtain ⟨e, he, other, clashes⟩ := taken
    have run := Database.set_stored stored number regular fields
    rw [if_pos (List.any_eq_true.mpr ⟨e, he, by rw [other, clashes]; rfl⟩)] at run
    cases kind <;> exact ⟨⟨_, congrArg Prod.fst run⟩, congrArg Prod.snd run⟩
  deletes now db kind regular i := by
    rintro limit db rfl
    cases kind <;> exact ⟨rfl, rfl⟩

end Mongo

end DeviceAlerts
