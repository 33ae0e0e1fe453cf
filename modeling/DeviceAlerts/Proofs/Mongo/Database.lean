import DeviceAlerts.Proofs.Mongo.Attempt
import DeviceAlerts.Proofs.Table
import Mathlib.Logic.Function.Basic

/-! A database that does as it is documented to do: what its requests answer and what becomes of
the documents, as far as the records with numbers need it. What an attempt comes to can then be
told from the documents alone, whatever else there is to the state of the database. -/

namespace DeviceAlerts

open DeviceAlerts.Number DeviceAlerts.Time

def Store.Kind.collection : Store.Kind → Mongo.Collection
  | devices => .devices
  | tags => .tags
  | messages => .messages

namespace Document

def hasNumber (i : Int) (d : Document) : Bool := d.get? "id" = some (.int i)

/-- Sets fields in the documents of a number. -/
def revise (i : Int) (fields : List (String × Datum)) (docs : List Document) : List Document :=
  docs.map fun d => if d.hasNumber i then d.setAll fields else d

/-- Documents that both have numbers have them in order. -/
def AtMost (a b : Document) : Prop :=
  ∀ i j, a.hasNumber i = true → b.hasNumber j = true → i ≤ j

theorem setAll_append (first second : List (String × Datum)) (d : Document) :
    d.setAll (first ++ second) = (d.setAll first).setAll second :=
  List.foldl_append

theorem needInteger_eq {d : Document} {key : String} {i : Int}
    (h : d.get? key = some (.int i)) : d.needInteger key = .ok i := by
  rw [needInteger, need, h]
  rfl

end Document

namespace Mongo

/-! ### Unique indexes -/

/-- Whether two documents share the key of a unique index. -/
def clash (kind : Store.Kind) (a b : Document) : Bool :=
  Index.all.any fun index => index.isUnique && decide (index.on = kind.collection) &&
    index.keys.all fun key => decide (a.get? key.field = b.get? key.field)

/-- What the unique indexes look at are integers and texts; these have only one form. -/
def Keyed (kind : Store.Kind) (d : Document) : Prop :=
  ∀ index ∈ Index.all, index.isUnique = true → index.on = kind.collection →
    ∀ key ∈ index.keys, (∃ i : Int, d.get? key.field = some (.int i)) ∨
      ∃ s : String, d.get? key.field = some (.text s)

theorem clash_devices (a b : Document) : clash .devices a b =
    (decide (a.get? "id" = b.get? "id") || decide (a.get? "address" = b.get? "address")) := by
  simp [clash, Index.all, Store.Kind.collection]

theorem clash_tags (a b : Document) :
    clash .tags a b = decide (a.get? "id" = b.get? "id") := by
  simp [clash, Index.all, Store.Kind.collection]

/-- Documents that the unique indexes admit, each with a number of its own. -/
structure Regular (kind : Store.Kind) (docs : List Document) : Prop where
  keyed : ∀ d ∈ docs, Keyed kind d
  numbered : docs.Pairwise fun a b => a.get? "id" ≠ b.get? "id"
  apart : docs.Pairwise fun a b => clash kind a b = false

/-! ### What is documented -/

/-- The documents of each kind of records in the order in which they came, and how far each counter
has counted. -/
structure Database where
  documents : Store.Kind → List Document
  count : String → Int

namespace Database

def empty : Database := ⟨fun _ => [], fun _ => 0⟩

def put (db : Database) (kind : Store.Kind) (docs : List Document) : Database :=
  { db with documents := Function.update db.documents kind docs }

def advanced (db : Database) (name : String) : Database :=
  { db with count := Function.update db.count name (db.count name + 1) }

variable (db : Database) (kind : Store.Kind) (docs : List Document) (name : String)

theorem documents_put_self : (db.put kind docs).documents kind = docs :=
  Function.update_self ..

theorem documents_put_of_ne {other : Store.Kind} (ne : other ≠ kind) :
    (db.put kind docs).documents other = db.documents other :=
  Function.update_of_ne ne ..

theorem count_advanced_self : (db.advanced name).count name = db.count name + 1 :=
  Function.update_self ..

theorem count_advanced_of_ne {other : String} (ne : other ≠ name) :
    (db.advanced name).count other = db.count other :=
  Function.update_of_ne ne ..

end Database

variable {α β σ : Type}

def IsRefusal (e : Except Fault α) : Prop := ∃ reason, e = .error (.driver .duplicateKey reason)

section

variable (answer : (c : mongo.Call) → σ → mongo.Answer c × σ) (view : σ → Database)

/-- How a request is answered by a database with given documents, and the documents after it. -/
def Answers (r : Request) (db : Database) (P : Except Fault r.Answer → Prop) (after : Database) :
    Prop :=
  ∀ limit s, view s = db →
    P (answer (.drive r limit) s).1 ∧ view (answer (.drive r limit) s).2 = after

end

/-- The documented behaviour at every moment; `view` tells the documents from the state. What would
break a unique index is refused and changes nothing. -/
structure Documented (answer : Moment → (c : mongo.Call) → σ → mongo.Answer c × σ)
    (view : σ → Database) : Prop where
  reachable (now : Moment) : Reachable (answer now) view
  clock (now : Moment) (s : σ) : (answer now .now s).1 = now ∧ view (answer now .now s).2 = view s
  lists (now : Moment) {db : Database} {kind : Store.Kind}
    (regular : Regular kind (db.documents kind)) :
    Answers (answer now) view (.find kind.collection .all ⟨"id", .ascending⟩ none) db
      (fun a => ∃ found : List Document, a = .ok (found.map .record) ∧
        found.Perm (db.documents kind) ∧ found.Pairwise Document.AtMost) db
  finds (now : Moment) {db : Database} {kind : Store.Kind}
    (regular : Regular kind (db.documents kind)) (i : Int) :
    Answers (answer now) view (.findOne kind.collection (.number i)) db
      (· = .ok (((db.documents kind).find? (·.hasNumber i)).elim .null .record)) db
  counts (now : Moment) (db : Database) (name : String) :
    Answers (answer now) view (.findAndUpdate .counters (.counter name) .advance) db
      (fun a => ∃ d : Document, a = .ok (.record d) ∧
        d.get? "seq" = some (.int (db.count name + 1))) (db.advanced name)
  inserts (now : Moment) {db : Database} {kind : Store.Kind} {d : Document}
    (regular : Regular kind (db.documents kind ++ [d])) :
    Answers (answer now) view (.insert kind.collection d) db (· = .ok ())
      (db.put kind (db.documents kind ++ [d]))
  refusesInsert (now : Moment) {db : Database} {kind : Store.Kind} {d : Document}
    (regular : Regular kind (db.documents kind)) (keyed : Keyed kind d)
    (taken : ∃ e ∈ db.documents kind, clash kind e d = true) :
    Answers (answer now) view (.insert kind.collection d) db IsRefusal db
  misses (now : Moment) {db : Database} {kind : Store.Kind} {i : Int}
    (missing : ∀ d ∈ db.documents kind, d.hasNumber i = false) (fields : List (String × Datum)) :
    Answers (answer now) view (.findAndUpdate kind.collection (.number i) (.set fields)) db
      (· = .ok .null) db
  sets (now : Moment) {db : Database} {kind : Store.Kind} {i : Int} {d : Document}
    (stored : d ∈ db.documents kind) (number : d.hasNumber i = true)
    (fields : List (String × Datum)) (regular : Regular kind (db.documents kind))
    (admitted : Regular kind (Document.revise i fields (db.documents kind))) :
    Answers (answer now) view (.findAndUpdate kind.collection (.number i) (.set fields)) db
      (· = .ok (.record (d.setAll fields)))
      (db.put kind (Document.revise i fields (db.documents kind)))
  refusesSet (now : Moment) {db : Database} {kind : Store.Kind} {i : Int} {d : Document}
    (stored : d ∈ db.documents kind) (number : d.hasNumber i = true)
    (fields : List (String × Datum)) (regular : Regular kind (db.documents kind))
    (keyed : Keyed kind (d.setAll fields))
    (taken : ∃ e ∈ db.documents kind, e.hasNumber i = false ∧
      clash kind e (d.setAll fields) = true) :
    Answers (answer now) view (.findAndUpdate kind.collection (.number i) (.set fields)) db
      IsRefusal db
  deletes (now : Moment) {db : Database} {kind : Store.Kind}
    (regular : Regular kind (db.documents kind)) (i : Int) :
    Answers (answer now) view (.delete kind.collection (.number i)) db
      (· = .ok (.int (if (db.documents kind).any (·.hasNumber i) then 1 else 0)))
      (db.put kind ((db.documents kind).filter fun d => !d.hasNumber i))

/-! ### Attempts -/

section

variable (answer : (c : mongo.Call) → σ → mongo.Answer c × σ) (view : σ → Database)

/-- What an attempt comes to when the documents are the given ones, and the documents after it. -/
def Attempt.Yields (p : Attempt α) (db : Database) (P : Except Failure α → Prop)
    (after : Database) : Prop :=
  ∀ s, view s = db → P (p.outcome answer s).1 ∧ view (p.outcome answer s).2 = after

end

/-- The failure that a refusal becomes. -/
def IsDuplicate (e : Except Failure α) : Prop := ∃ reason, e = .error (.duplicateKey reason)

variable {answer : (c : mongo.Call) → σ → mongo.Answer c × σ} {view : σ → Database}
  {db between after : Database}

namespace Attempt

theorem yields_ofExcept {e : Except Failure α} {P : Except Failure α → Prop} (h : P e) :
    (ofExcept e).Yields answer view db P db :=
  fun _ hs => ⟨h, hs⟩

theorem yields_ok {e : Except Failure α} {a : α} (h : e = .ok a) :
    (ofExcept e).Yields answer view db (· = .ok a) db :=
  yields_ofExcept h

theorem yields_pure (a : α) : (pure a : Attempt α).Yields answer view db (· = .ok a) db :=
  fun _ hs => ⟨rfl, hs⟩

namespace Yields

variable {p : Attempt α} {f : α → Attempt β}

theorem bind {P : α → Prop} {Q : Except Failure β → Prop}
    (hp : p.Yields answer view db (fun e => ∃ a, e = .ok a ∧ P a) between)
    (hf : ∀ a, P a → (f a).Yields answer view between Q after) :
    (p >>= f).Yields answer view db Q after := by
  intro s hs
  obtain ⟨⟨a, hanswer, ha⟩, hview⟩ := hp s hs
  rw [outcome_bind_ok answer (Prod.ext hanswer rfl)]
  exact hf a ha _ hview

theorem bind_ok {a : α} {Q : Except Failure β → Prop}
    (hp : p.Yields answer view db (· = .ok a) between)
    (hf : (f a).Yields answer view between Q after) :
    (p >>= f).Yields answer view db Q after := by
  intro s hs
  obtain ⟨hanswer, hview⟩ := hp s hs
  rw [outcome_bind_ok answer (Prod.ext hanswer rfl)]
  exact hf _ hview

theorem bind_error {e : Failure} (hp : p.Yields answer view db (· = .error e) after) :
    (p >>= f).Yields answer view db (· = .error e) after := by
  intro s hs
  obtain ⟨hanswer, hview⟩ := hp s hs
  rw [outcome_bind_error answer (Prod.ext hanswer rfl)]
  exact ⟨rfl, hview⟩

theorem bind_duplicate (hp : p.Yields answer view db IsDuplicate after) :
    (p >>= f).Yields answer view db IsDuplicate after := by
  intro s hs
  obtain ⟨⟨reason, hanswer⟩, hview⟩ := hp s hs
  rw [outcome_bind_error answer (Prod.ext hanswer rfl)]
  exact ⟨⟨reason, rfl⟩, hview⟩

theorem withFailure {P Q : Except Failure α → Prop} (hp : p.Yields answer view db P after)
    {change : Failure → Failure} (changed : ∀ e, P e → Q (e.mapError change)) :
    (p.withFailure change).Yields answer view db Q after := by
  intro s hs
  obtain ⟨hanswer, hview⟩ := hp s hs
  rw [outcome_withFailure]
  exact ⟨changed _ hanswer, hview⟩

theorem mono {P Q : Except Failure α → Prop} (hp : p.Yields answer view db P after)
    (weaker : ∀ e, P e → Q e) : p.Yields answer view db Q after :=
  fun s hs => ⟨weaker _ (hp s hs).1, (hp s hs).2⟩

end Yields

end Attempt

namespace Access

variable (a : Access) {r : Request} {P : Except Fault r.Answer → Prop}

theorem yields_reach (h : Reachable answer view) :
    a.reach.Yields answer view db (· = .ok ()) db := by
  intro s hs
  obtain ⟨t, ht, hview⟩ := a.outcome_reach h s
  rw [ht]
  exact ⟨rfl, hview.trans hs⟩

theorem yields_send (h : Answers answer view r db P after) :
    (a.send r).Yields answer view db
      (fun e => ∃ given, P given ∧ e = given.mapError (Fault.failure a.call)) after := by
  intro s hs
  obtain ⟨hanswer, hview⟩ := h a.limit s hs
  rw [outcome_send]
  exact ⟨⟨_, hanswer, rfl⟩, hview⟩

theorem yields_send_ok {x : r.Answer} (h : Answers answer view r db (· = .ok x) after) :
    (a.send r).Yields answer view db (· = .ok x) after :=
  (a.yields_send h).mono fun e he => by
    obtain ⟨_, rfl, rfl⟩ := he
    rfl

theorem yields_send_refusal (h : Answers answer view r db IsRefusal after) :
    (a.send r).Yields answer view db IsDuplicate after :=
  (a.yields_send h).mono fun e he => by
    obtain ⟨_, ⟨reason, rfl⟩, rfl⟩ := he
    exact ⟨reason, rfl⟩

/-- To reach the database first makes no difference. -/
theorem yields_request {Q : Except Failure r.Answer → Prop} (h : Reachable answer view)
    (sent : (a.send r).Yields answer view db Q after) :
    (a.request r).Yields answer view db Q after :=
  (a.yields_reach h).bind_ok sent

theorem yields_update {on : Collection} {i : Int} {fields : List (String × Datum)}
    {Q : Except Failure Datum → Prop} (h : Reachable answer view)
    (sent : (a.send (.findAndUpdate on (.number i) (.set fields))).Yields answer view db Q after) :
    (a.update on (.int i) fields).Yields answer view db Q after :=
  (a.yields_reach h).bind_ok ((Attempt.yields_ok rfl).bind_ok sent)

end Access

namespace Documented

variable {answer : Moment → (c : mongo.Call) → σ → mongo.Answer c × σ} (h : Documented answer view)

include h

theorem yields_now (now : Moment) : Attempt.now.Yields (answer now) view db (· = .ok now) db := by
  intro s hs
  obtain ⟨hclock, hview⟩ := h.clock now s
  rw [Attempt.outcome_now]
  exact ⟨congrArg Except.ok hclock, hview.trans hs⟩

/-- The next number of a counter is one more than those before, and then it has been used. -/
theorem yields_nextId (db : Database) (now : Moment) (a : Access) (on : Collection) :
    (a.nextId on).Yields (answer now) view db (· = .ok (db.count on.name + 1))
      (db.advanced on.name) := by
  have counted := a.yields_send (h.counts now db on.name)
  refine (a.yields_request (h.reachable now) (counted.mono ?_)).bind
    (P := fun given : Datum => ∃ d : Document, given = .record d ∧
      d.get? "seq" = some (.int (db.count on.name + 1))) fun given hgiven => ?_
  · rintro _ ⟨_, ⟨d, rfl, hseq⟩, rfl⟩
    exact ⟨.record d, rfl, d, rfl, hseq⟩
  · obtain ⟨d, rfl, hseq⟩ := hgiven
    exact Attempt.yields_ofExcept (Document.needInteger_eq hseq)

end Documented

end Mongo

end DeviceAlerts
