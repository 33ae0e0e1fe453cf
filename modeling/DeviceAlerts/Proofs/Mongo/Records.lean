import DeviceAlerts.Proofs.Mongo.Database
import DeviceAlerts.Proofs.Store.Sequence

/-! Records as documents. Where records of the right types are read back from their documents as
they are, and the documents of a kind are those of records in the order of their numbers, the
requests of the store come to the same on the documents as on the records. -/

namespace DeviceAlerts.Mongo

open DeviceAlerts.Number DeviceAlerts.Store DeviceAlerts.Time

/-! ### Records as documents -/

/-- How the records of a kind are written as documents and read. -/
structure Codec (α : Type) where
  kind : Store.Kind
  id : α → Datum
  Typed : α → Prop
  write : α → Document
  read : Document → Except Failure α
  get?_id (r : α) : (write r).get? "id" = some (id r)
  read_write {r : α} : Typed r → read (write r) = .ok r
  keyed {r : α} : Typed r → Keyed kind (write r)

variable {α : Type} {k : Codec α} {next i : Int} {db : Database} {records : List α}

/-- Records in the order of their numbers that the unique indexes admit. -/
structure Codec.Orderly (k : Codec α) (next : Int) (records : List α) : Prop where
  sequence : InSequence k.id next records
  typed : ∀ r ∈ records, k.Typed r
  apart : records.Pairwise fun a b => clash k.kind (k.write a) (k.write b) = false

/-- The documents of a kind are those of given records. -/
structure Codec.Holds (k : Codec α) (next : Int) (db : Database) (records : List α) : Prop where
  documents : db.documents k.kind = records.map k.write
  orderly : k.Orderly next records

namespace Codec

theorem hasNumber_write (k : Codec α) (i : Int) (r : α) :
    (k.write r).hasNumber i = decide (k.id r = .int i) := by
  rw [Document.hasNumber, k.get?_id, Bool.eq_iff_iff, decide_eq_true_iff, decide_eq_true_iff,
    Option.some.injEq]

theorem isTruthy_write (k : Codec α) (r : α) : (Datum.record (k.write r)).isTruthy = true := by
  have found := k.get?_id r
  cases hwrite : k.write r with
  | nil =>
    rw [hwrite] at found
    cases found
  | cons _ _ => rfl

theorem Orderly.regular (h : k.Orderly next records) : Regular k.kind (records.map k.write) :=
  ⟨List.forall_mem_map.mpr fun r hr => k.keyed (h.typed r hr),
    List.pairwise_map.mpr (h.sequence.id_ne.imp fun ne same => ne (Option.some.inj
      ((k.get?_id _).symm.trans (same.trans (k.get?_id _))))),
    List.pairwise_map.mpr h.apart⟩

namespace Holds

theorem regular (h : k.Holds next db records) : Regular k.kind (db.documents k.kind) :=
  h.documents ▸ h.orderly.regular

theorem find?_documents (h : k.Holds next db records) (i : Int) :
    (db.documents k.kind).find? (·.hasNumber i) =
      (records.find? fun r => k.id r = .int i).map k.write := by
  rw [h.documents, List.find?_map]
  simp only [Function.comp_def, k.hasNumber_write]

theorem any_documents (h : k.Holds next db records) (i : Int) :
    (db.documents k.kind).any (·.hasNumber i) = records.any fun r => k.id r = .int i := by
  rw [h.documents, List.any_map]
  simp only [Function.comp_def, k.hasNumber_write]

theorem filter_documents (h : k.Holds next db records) (i : Int) :
    (db.documents k.kind).filter (fun d => !d.hasNumber i) =
      (records.filter fun r => k.id r ≠ .int i).map k.write := by
  rw [h.documents, List.filter_map]
  simp only [Function.comp_def, k.hasNumber_write, decide_not, ne_eq]

theorem of_find? (h : k.Holds next db records) {r : α}
    (found : records.find? (fun r => k.id r = .int i) = some r) :
    k.write r ∈ db.documents k.kind ∧ (k.write r).hasNumber i = true := by
  rw [h.documents, k.hasNumber_write, id_of_find? found]
  exact ⟨List.mem_map_of_mem (List.mem_of_find?_eq_some found), decide_eq_true rfl⟩

/-- Fields that change one record to another change the documents so. -/
theorem revise_documents (h : k.Holds next db records) {old new : α}
    (found : records.find? (fun r => k.id r = .int i) = some old) {fields : List (String × Datum)}
    (written : (k.write old).setAll fields = k.write new) (same : k.id new = k.id old) :
    Document.revise i fields (db.documents k.kind) =
      (records.map fun r => if k.id r = k.id new then new else r).map k.write := by
  have hold := id_of_find? found
  rw [h.documents, Document.revise, List.map_map, List.map_map]
  refine List.map_congr_left fun r hr => ?_
  simp only [Function.comp_apply, k.hasNumber_write, same, hold, decide_eq_true_eq]
  split
  · next hid =>
    rw [h.orderly.sequence.eq_of_id hr (List.mem_of_find?_eq_some found) (hid.trans hold.symm),
      written]
  · rfl

/-- In the order of their numbers the documents are just as they came. -/
theorem eq_documents (h : k.Holds next db records) {found : List Document}
    (perm : found.Perm (db.documents k.kind)) (sorted : found.Pairwise Document.AtMost) :
    found = records.map k.write := by
  rw [h.documents] at perm
  refine perm.eq_of_pairwise (fun a b ha hb hab hba => ?_) sorted ?_
  · obtain ⟨r, hr, rfl⟩ := List.mem_map.mp (perm.subset ha)
    obtain ⟨q, hq, rfl⟩ := List.mem_map.mp hb
    obtain ⟨i, -, hi⟩ := h.orderly.sequence.given r hr
    obtain ⟨j, -, hj⟩ := h.orderly.sequence.given q hq
    have numbers (n : Int) (x : α) (hx : k.id x = .int n) : (k.write x).hasNumber n = true := by
      rw [k.hasNumber_write, hx, decide_eq_true rfl]
    have le := hab i j (numbers i r hi) (numbers j q hj)
    have ge := hba j i (numbers j q hj) (numbers i r hi)
    have same : k.id r = k.id q := by
      obtain rfl := Int.le_antisymm le ge
      exact hi.trans hj.symm
    exact congrArg k.write (h.orderly.sequence.eq_of_id hr hq same)
  · refine List.pairwise_map.mpr (h.orderly.sequence.ascending.imp ?_)
    rintro r q ⟨i, j, hi, hj, hlt⟩ m n hm hn
    rw [k.hasNumber_write, hi, decide_eq_true_iff, Datum.int.injEq] at hm
    rw [k.hasNumber_write, hj, decide_eq_true_iff, Datum.int.injEq] at hn
    omega

end Holds

end Codec

/-- Fields that each make one change make all changes together, whatever relates documents to
records. -/
theorem exists_fields {χ : Type} {field : χ → Except Failure (String × Datum)} {apply : α → χ → α}
    {R : Document → α → Prop} {changes : List χ}
    (each : ∀ c ∈ changes, ∃ f, field c = .ok f ∧
      ∀ d r, R d r → R (Table.set f.1 f.2 d) (apply r c)) :
    ∃ fields, changes.mapM field = .ok fields ∧
      ∀ d r, R d r → R (d.setAll fields) (changes.foldl apply r) := by
  induction changes with
  | nil => exact ⟨[], rfl, fun _ _ related => related⟩
  | cons c rest ih =>
    obtain ⟨⟨f, hfield, hset⟩, hrest⟩ := List.forall_mem_cons.mp each
    obtain ⟨fields, hfields, hsets⟩ := ih hrest
    refine ⟨f :: fields, ?_, fun d r related => ?_⟩
    · rw [List.mapM_cons, hfield, hfields]
      rfl
    · have first := hset d r related
      exact hsets _ _ first

/-! ### Requests for records -/

section

variable {σ : Type} {view : σ → Database}

theorem Codec.yields_readOne {answer : (c : mongo.Call) → σ → mongo.Answer c × σ} (k : Codec α)
    {r : α} (typed : k.Typed r) :
    (Access.readOne k.read (.record (k.write r))).Yields answer view db (· = .ok (some r)) db := by
  rw [Access.readOne, if_pos (k.isTruthy_write r), map_eq_pure_bind]
  exact (Attempt.yields_ok (k.read_write typed)).bind_ok
    (Attempt.yields_pure (some r))

variable {answer : Moment → (c : mongo.Call) → σ → mongo.Answer c × σ}
  (h : Documented answer view) (holds : k.Holds next db records) (now : Moment) (a : Access)

include h holds

namespace Documented

theorem yields_list :
    (a.list k.kind.collection k.read).Yields (answer now) view db (· = .ok records) db := by
  have told : (a.request (.find k.kind.collection .all ⟨"id", .ascending⟩ none)).Yields
      (answer now) view db (· = .ok (records.map fun r => .record (k.write r))) db := by
    refine a.yields_request (h.reachable now)
      ((a.yields_send (h.lists now holds.regular)).mono ?_)
    rintro _ ⟨_, ⟨found, rfl, perm, sorted⟩, rfl⟩
    rw [holds.eq_documents perm sorted, List.map_map]
    rfl
  refine told.bind_ok (Attempt.yields_ofExcept ?_)
  rw [List.mapM_map]
  exact (mapM_eq_ok fun r hr => k.read_write (holds.orderly.typed r hr)).trans
    (congrArg Except.ok (List.map_id _))

theorem yields_get (i : Int) :
    (a.get k.kind.collection k.read (.int i)).Yields (answer now) view db
      (· = .ok (records.find? fun r => k.id r = .int i)) db := by
  have told := a.yields_send_ok (h.finds now holds.regular i)
  rw [holds.find?_documents] at told
  refine (a.yields_reach (h.reachable now)).bind_ok
    ((Attempt.yields_ok rfl).bind_ok (told.bind_ok ?_))
  cases hfound : records.find? fun r => k.id r = .int i with
  | none => exact Attempt.yields_pure none
  | some r => exact k.yields_readOne (holds.orderly.typed r (List.mem_of_find?_eq_some hfound))

theorem yields_delete (i : Int) :
    (a.delete k.kind.collection (.int i)).Yields (answer now) view db
      (· = .ok (records.any fun r => k.id r = .int i))
      (db.put k.kind ((records.filter fun r => k.id r ≠ .int i).map k.write)) := by
  have told := a.yields_send_ok (h.deletes now holds.regular i)
  rw [holds.any_documents, holds.filter_documents] at told
  refine (a.yields_reach (h.reachable now)).bind_ok
    ((Attempt.yields_ok rfl).bind_ok
      (told.bind_ok (Attempt.yields_ofExcept ?_)))
  cases records.any fun r => k.id r = .int i <;> rfl

theorem yields_insert {r : α} {after : Int} (orderly : k.Orderly after (records ++ [r])) :
    (a.request (.insert k.kind.collection (k.write r))).Yields (answer now) view db (· = .ok ())
      (db.put k.kind ((records ++ [r]).map k.write)) := by
  have regular := orderly.regular
  rw [List.map_append, List.map_singleton, ← holds.documents] at regular ⊢
  exact a.yields_request (h.reachable now) (a.yields_send_ok (h.inserts now regular))

theorem refuses_insert {r other : α} (typed : k.Typed r) (stored : other ∈ records)
    (taken : clash k.kind (k.write other) (k.write r) = true) :
    (a.request (.insert k.kind.collection (k.write r))).Yields (answer now) view db IsDuplicate
      db := by
  refine a.yields_request (h.reachable now)
    (a.yields_send_refusal (h.refusesInsert now holds.regular (k.keyed typed) ⟨_, ?_, taken⟩))
  rw [holds.documents]
  exact List.mem_map_of_mem stored

theorem yields_update_missing
    (missing : records.find? (fun r => k.id r = .int i) = none) (fields : List (String × Datum)) :
    (a.update k.kind.collection (.int i) fields).Yields (answer now) view db (· = .ok .null)
      db := by
  have absent : ∀ d ∈ db.documents k.kind, d.hasNumber i = false := by
    rw [holds.documents, List.forall_mem_map]
    intro r hr
    rw [k.hasNumber_write]
    simpa using List.find?_eq_none.mp missing r hr
  exact a.yields_update (h.reachable now) (a.yields_send_ok (h.misses now absent fields))

section

variable {old new : α} (found : records.find? (fun r => k.id r = .int i) = some old)
  {fields : List (String × Datum)} (written : (k.write old).setAll fields = k.write new)

include found written

theorem yields_update (same : k.id new = k.id old)
    (orderly : k.Orderly next (records.map fun r => if k.id r = k.id new then new else r)) :
    (a.update k.kind.collection (.int i) fields).Yields (answer now) view db
      (· = .ok (.record (k.write new)))
      (db.put k.kind
        ((records.map fun r => if k.id r = k.id new then new else r).map k.write)) := by
  obtain ⟨stored, number⟩ := holds.of_find? found
  have regular := orderly.regular
  rw [← holds.revise_documents found written same] at regular ⊢
  have told := a.yields_send_ok (h.sets now stored number fields holds.regular regular)
  rw [written] at told
  exact a.yields_update (h.reachable now) told

theorem refuses_update (typed : k.Typed new) {other : α} (stored : other ∈ records)
    (different : k.id other ≠ k.id old)
    (taken : clash k.kind (k.write other) (k.write new) = true) :
    (a.update k.kind.collection (.int i) fields).Yields (answer now) view db IsDuplicate db := by
  have hold := id_of_find? found
  obtain ⟨hstored, number⟩ := holds.of_find? found
  refine a.yields_update (h.reachable now) (a.yields_send_refusal
    (h.refusesSet now hstored number fields holds.regular ?_ ⟨k.write other, ?_, ?_, ?_⟩))
  · exact written ▸ k.keyed typed
  · rw [holds.documents]
    exact List.mem_map_of_mem stored
  · rw [k.hasNumber_write, ← hold, decide_eq_false different]
  · rwa [written]

end

end Documented

end

end DeviceAlerts.Mongo
