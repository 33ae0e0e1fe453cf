import DeviceAlerts.Mongo.Script
import DeviceAlerts.Proofs.Mongo.Attempt
import DeviceAlerts.Proofs.Protocol

/-! What becomes of the faults of the driver. A store call stops at the first request that fails, so
it meets one fault or none, and that fault decides what the call fails with. A key that is taken is
told as such by every call. Only the calls that save a device make something of it: whichever of
their requests was refused, they say that the address is taken. Documents and numerals that cannot
be read are failures of their own, which nobody can take for one of the database. -/

namespace DeviceAlerts

open DeviceAlerts.Number DeviceAlerts.Time

/-! ### Readings that blame nobody -/

/-- Whether a failure says that the database could not be reached or that it refused a key. -/
def Failure.tellsFault : Failure → Bool
  | unavailable _ | duplicateKey _ | addressTaken _ => true
  | _ => false

/-- Something that may fail, but never with a failure that tells of a fault of the database. -/
def Blameless {α : Type} (e : Except Failure α) : Prop :=
  ∀ failure, e = .error failure → failure.tellsFault = false

section

variable {α β ε : Type}

theorem blameless_ok (a : α) : Blameless (.ok a) := nofun

theorem blameless_error {failure : Failure} (h : failure.tellsFault = false) :
    Blameless (.error failure : Except Failure α) := by
  intro other same
  cases same
  exact h

theorem Blameless.bind {e : Except Failure α} {f : α → Except Failure β} (first : Blameless e)
    (later : ∀ a, Blameless (f a)) : Blameless (e >>= f) := by
  cases e with
  | ok a => exact later a
  | error failure => exact blameless_error (first failure rfl)

theorem Blameless.map {e : Except Failure α} (h : Blameless e) (f : α → β) :
    Blameless (f <$> e) := by
  cases e with
  | ok a => exact blameless_ok (f a)
  | error failure => exact blameless_error (h failure rfl)

theorem blameless_mapError {f : ε → Failure} (h : ∀ fault, (f fault).tellsFault = false)
    (e : Except ε α) : Blameless (e.mapError f) := by
  cases e with
  | ok a => exact blameless_ok a
  | error fault => exact blameless_error (h fault)

theorem blameless_mapM {f : α → Except Failure β} (h : ∀ a, Blameless (f a)) (xs : List α) :
    Blameless (xs.mapM f) := by
  induction xs with
  | nil => exact blameless_ok []
  | cons x rest ih =>
    rw [List.mapM_cons]
    exact (h x).bind fun _ => ih.bind fun _ => blameless_ok _

theorem blameless_foldlM {f : β → α → Except Failure β} (h : ∀ b a, Blameless (f b a))
    (xs : List α) (b : β) : Blameless (xs.foldlM f b) := by
  induction xs generalizing b with
  | nil => exact blameless_ok b
  | cons x rest ih =>
    rw [List.foldlM_cons]
    exact (h b x).bind ih

end

/-! ### Fields -/

theorem Datum.blameless_readInteger (d : Datum) : Blameless d.readInteger :=
  blameless_mapError (fun _ => rfl) _

theorem Datum.blameless_readIntegers (d : Datum) : Blameless d.readIntegers :=
  (blameless_mapError (fun _ => rfl) _).bind fun _ => blameless_mapError (fun _ => rfl) _

namespace Document

theorem blameless_ofDatum (d : Datum) : Blameless (ofDatum d) := by
  cases d with
  | record fields => exact blameless_ok fields
  | _ => exact blameless_error rfl

variable (d : Document) (key : String)

theorem blameless_need : Blameless (d.need key) := by
  unfold need
  split
  · exact blameless_ok _
  · exact blameless_error rfl

theorem blameless_needInteger : Blameless (d.needInteger key) :=
  (d.blameless_need key).bind Datum.blameless_readInteger

theorem blameless_integer : Blameless (d.integer key) := Datum.blameless_readInteger _

theorem blameless_integers : Blameless (d.integers key) := by
  unfold integers
  dsimp only
  split
  · exact Datum.blameless_readIntegers _
  · exact blameless_ok []

end Document

/-! ### Records -/

theorem Device.blameless_ofDocument (d : Document) : Blameless (ofDocument d) :=
  (d.blameless_needInteger "id").bind fun _ =>
    (d.blameless_integers "responsible").bind fun _ => blameless_ok _

theorem Tag.blameless_ofDocument (d : Document) : Blameless (ofDocument d) :=
  (d.blameless_needInteger "id").bind fun _ => (d.blameless_integer "deviceId").bind fun _ =>
    (d.blameless_integer "arrayIndex").bind fun _ => blameless_ok _

theorem Message.blameless_ofDocument (d : Document) : Blameless (ofDocument d) :=
  (d.blameless_integer "deviceId").bind fun _ =>
    (d.blameless_need "gotAt").bind fun _ => blameless_ok _

theorem Message.blameless_fieldsOf (d : Datum) : Blameless (fieldsOf d) := by
  cases d with
  | record fields => exact blameless_ok fields
  | _ => exact blameless_error rfl

theorem DeviceDraft.blameless_document (draft : DeviceDraft) (id : Int) (now : Moment) :
    Blameless (draft.document id now) :=
  (Datum.blameless_readIntegers _).bind fun _ => blameless_ok _

theorem TagDraft.blameless_document (draft : TagDraft) (id : Int) (now : Moment) :
    Blameless (draft.document id now) :=
  (Datum.blameless_readInteger _).bind fun _ =>
    (Datum.blameless_readInteger _).bind fun _ => blameless_ok _

theorem Message.blameless_document (m : Message) : Blameless m.document :=
  (Datum.blameless_readInteger _).bind fun _ => blameless_ok _

theorem DeviceChange.blameless_fields (changes : List DeviceChange) :
    Blameless (fields changes) := by
  refine blameless_mapM (fun c => ?_) changes
  cases c with
  | responsible given => exact (Datum.blameless_readIntegers given).bind fun _ => blameless_ok _
  | unknown name => exact blameless_error rfl
  | _ => exact blameless_ok _

theorem TagChange.blameless_fields (changes : List TagChange) : Blameless (fields changes) := by
  refine blameless_mapM (fun c => ?_) changes
  cases c with
  | unknown name => exact blameless_error rfl
  | _ => exact blameless_ok _

/-! ### Figures -/

namespace Mongo

theorem Access.blameless_queryDevice (id : Datum) : Blameless (queryDevice id) := by
  cases id with
  | null => exact blameless_ok none
  | _ => exact (Datum.blameless_readInteger _).map some

theorem Access.blameless_readCount (row : Datum) : Blameless (readCount row) :=
  (Document.blameless_ofDatum row).bind fun d => (d.blameless_needInteger _).bind fun _ =>
    (d.blameless_needInteger _).bind fun _ => blameless_ok _

theorem Bucket.blameless_keyOf (d : Document) : Blameless (keyOf d) :=
  (d.blameless_need _).bind Document.blameless_ofDatum

theorem Bucket.blameless_ofKey (key : Document) : Blameless (ofKey key) :=
  (key.blameless_needInteger _).bind fun _ => (key.blameless_need _).bind fun _ =>
    (key.blameless_need _).bind fun _ => (blameless_mapError (fun _ => rfl) _).bind fun _ =>
      (blameless_mapError (fun _ => rfl) _).bind fun _ => blameless_ok _

theorem Bucket.blameless_volume (b : Bucket) (t : Tally) : Blameless (b.volume t) := by
  have dated : Blameless b.date := by
    unfold date
    split
    · exact blameless_mapError (fun _ => rfl) _
    · exact blameless_error rfl
  exact dated.bind fun _ => blameless_ok _

namespace Tally

theorem blameless_extreme (isGreatest : Bool) (old new : Datum) :
    Blameless (extreme isGreatest old new) := by
  refine (blameless_mapError (fun _ => rfl) _).bind fun found => ?_
  cases found with
  | none => exact blameless_error rfl
  | some d => exact blameless_ok d

theorem blameless_addComponent (components : Table Datum Int) (component : Datum) (total : Int) :
    Blameless (addComponent components component total) := by
  unfold addComponent
  split
  · exact (blameless_mapError (fun _ => rfl) _).bind fun _ => blameless_ok _
  · exact blameless_ok components

theorem blameless_add (t : Tally) (component : Datum) (d : Document) :
    Blameless (t.add component d) := by
  -- what follows an extreme is blameless, whether the extreme is a new one or the old one
  have bounded {rest : Datum → Except Failure Tally} (later : ∀ x, Blameless (rest x))
      (isGreatest : Bool) (old new : Datum) : Blameless
        (if new = .null then pure old >>= rest else extreme isGreatest old new >>= rest) := by
    split
    · exact later old
    · exact (blameless_extreme isGreatest old new).bind later
  refine (d.blameless_needInteger _).bind fun total => (d.blameless_needInteger _).bind fun _ =>
    (blameless_addComponent _ component total).bind fun _ => ?_
  exact bounded (fun _ => bounded (fun _ => blameless_ok _) true _ _) false _ _

end Tally

theorem blameless_addRow (table : Table Bucket Tally) (row : Datum) :
    Blameless (addRow table row) :=
  (Document.blameless_ofDatum row).bind fun d => (Bucket.blameless_keyOf d).bind fun key =>
    (Bucket.blameless_ofKey key).bind fun _ => (Tally.blameless_add _ _ d).bind fun _ =>
      blameless_ok _

theorem blameless_dailyVolumes (rows : List Datum) : Blameless (dailyVolumes rows) :=
  (blameless_foldlM blameless_addRow rows []).bind fun _ =>
    (blameless_mapError (fun _ => rfl) _).bind fun sorted =>
      blameless_mapM (fun row => Bucket.blameless_volume row.1 row.2) sorted

end Mongo

/-! ### What faults amount to -/

namespace Store.Call

/-- The address that a call saves a device under. -/
def savedAddress? : Call → Option Datum
  | createDevice draft => some draft.address
  | updateDevice _ changes => some ((changes.filterMap DeviceChange.address?).head?.getD .null)
  | _ => none

/-- What a call fails with when the driver reports a fault. -/
def failureOf (c : Call) (kind : Mongo.FaultKind) (reason : String) : Failure :=
  if kind = .duplicateKey then
    match c.savedAddress? with
    | some address => .addressTaken address
    | none => .duplicateKey reason
  else .unavailable (c.name ++ " failed: " ++ reason)

end Store.Call

namespace Mongo

variable {α β σ : Type}

/-! ### Faults of a run -/

section

variable (driver : (c : mongo.Call) → σ → mongo.Answer c × σ)

/-- The fault that a question is answered with, and the request that it asked for. -/
def faultAt : mongo.Call × σ → Option (Request × Fault)
  | (.drive r limit, s) =>
    match (driver (.drive r limit) s).1 with
    | .error fault => some (r, fault)
    | .ok _ => none
  | _ => none

/-- The requests that fail in a run, each with its fault. -/
def faults (p : Program mongo α) (s : σ) : List (Request × Fault) :=
  (p.asked driver s).filterMap (faultAt driver)

theorem faults_bind (p : Program mongo α) (f : α → Program mongo β) (s : σ) :
    faults driver (p >>= f) s =
      faults driver p s ++ faults driver (f (p.run driver s).1) (p.run driver s).2 :=
  Program.filterMap_asked_bind driver _ p f s

theorem faults_drive (r : Request) (limit : Option Binary64) (s : σ) :
    faults driver (drive r limit) s = (faultAt driver (.drive r limit, s)).toList := by
  have asked : (drive r limit).asked driver s = [(.drive r limit, s)] := rfl
  rw [faults, asked, List.filterMap_cons]
  cases faultAt driver (.drive r limit, s) <;> rfl

end

/-! ### Attempts and their faults -/

/-- What an attempt comes to: something, a failure of its own, or what its only fault amounts to. -/
inductive Comes (tell : Fault → Failure) : List (Request × Fault) → Except Failure α → Prop
  | done (a : α) : Comes tell [] (.ok a)
  | own {failure : Failure} (h : failure.tellsFault = false) : Comes tell [] (.error failure)
  | fault (r : Request) (fault : Fault) : Comes tell [(r, fault)] (.error (tell fault))

namespace Comes

variable {tell : Fault → Failure} {met : List (Request × Fault)} {result : Except Failure α}

theorem of_mem {r : Request} {fault : Fault} (h : Comes tell met result)
    (here : (r, fault) ∈ met) : result = .error (tell fault) := by
  cases h with
  | done a => cases here
  | own _ => cases here
  | fault r fault =>
    obtain ⟨⟩ := List.mem_singleton.mp here
    rfl

theorem exists_fault {failure : Failure} (h : Comes tell met (.error failure : Except Failure α))
    (tells : failure.tellsFault = true) : ∃ r fault, (r, fault) ∈ met ∧ failure = tell fault := by
  cases h with
  | own silent =>
    rw [tells] at silent
    cases silent
  | fault r fault => exact ⟨r, fault, List.mem_singleton.mpr rfl, rfl⟩

end Comes

namespace Attempt

/-- However the driver answers, the attempt comes to what its only fault amounts to. -/
def Tells (tell : Fault → Failure) (p : Attempt α) : Prop :=
  ∀ (σ : Type) (driver : (c : mongo.Call) → σ → mongo.Answer c × σ) (s : σ),
    Comes tell (faults driver p.run s) (p.outcome driver s).1

variable {tell : Fault → Failure}

theorem tells_ofExcept {e : Except Failure α} (h : Blameless e) : (ofExcept e).Tells tell := by
  intro σ driver s
  cases e with
  | ok a => exact .done a
  | error failure => exact .own (h failure rfl)

theorem tells_pure (a : α) : (pure a : Attempt α).Tells tell := fun _ _ _ => .done a

theorem tells_now : now.Tells tell := fun _ _ _ => .done _

theorem Tells.bind {p : Attempt α} {f : α → Attempt β} (first : p.Tells tell)
    (later : ∀ a, (f a).Tells tell) : (p >>= f).Tells tell := by
  intro σ driver s
  have met : faults driver (p >>= f).run s = faults driver p.run s ++
      faults driver (ExceptT.bindCont f (p.outcome driver s).1) (p.outcome driver s).2 :=
    faults_bind driver p.run _ s
  rw [met, outcome_bind]
  have here := first σ driver s
  generalize faults driver p.run s = before at here ⊢
  generalize p.outcome driver s = reached at here ⊢
  obtain ⟨result, t⟩ := reached
  cases here with
  | done a => exact later a σ driver t
  | own h => exact .own h
  | fault r fault => exact .fault r fault

/-- Changing failures that tell of faults only changes what faults amount to. -/
theorem Tells.withFailure {p : Attempt α} (h : p.Tells tell) {f : Failure → Failure}
    (own : ∀ failure, failure.tellsFault = false → (f failure).tellsFault = false) :
    (p.withFailure f).Tells fun fault => f (tell fault) := by
  intro σ driver s
  have met : faults driver (p.withFailure f).run s = faults driver p.run s ++ [] :=
    faults_bind driver p.run _ s
  rw [met, List.append_nil, outcome_withFailure]
  have here := h σ driver s
  generalize faults driver p.run s = before at here ⊢
  generalize p.outcome driver s = reached at here ⊢
  obtain ⟨result, t⟩ := reached
  cases here with
  | done a => exact .done a
  | own h => exact .own (own _ h)
  | fault r fault => exact .fault r fault

end Attempt

namespace Access

open Attempt

variable (a : Access)

theorem tells_send (r : Request) : (a.send r).Tells (Fault.failure a.call) := by
  intro σ driver s
  have met : faults driver (a.send r).run s = faults driver (drive r a.limit) s ++ [] :=
    faults_bind driver _ _ s
  rw [met, List.append_nil, faults_drive, outcome_send]
  simp only [faultAt]
  cases (driver (.drive r a.limit) s).1 with
  | ok answer => exact .done answer
  | error fault => exact .fault r fault

theorem tells_reach : a.reach.Tells (Fault.failure a.call) := by
  intro σ driver s
  let next (isConnected : Bool) : Program mongo (Except Failure Unit) := Program.bind
    (if isConnected then pure (.ok ()) else drive (.connect a.uri) a.limit)
    fun answer => .done (answer.mapError (Fault.failure a.call))
  show Comes _ (faults driver (next (driver .isConnected s).1) (driver .isConnected s).2)
    (Program.run driver (next (driver .isConnected s).1) (driver .isConnected s).2).1
  generalize driver .isConnected s = reply
  obtain ⟨isConnected, t⟩ := reply
  cases (isConnected : Bool) with
  | true => exact .done ()
  | false => exact a.tells_send (.connect a.uri) σ driver t

theorem tells_request (r : Request) : (a.request r).Tells (Fault.failure a.call) :=
  a.tells_reach.bind fun _ => a.tells_send r

/-! ### Store calls -/

variable {α : Type} {read : Document → Except Failure α}

theorem tells_list (on : Collection) (h : ∀ d, Blameless (read d)) :
    (a.list on read).Tells (Fault.failure a.call) := by
  refine (a.tells_request _).bind fun answer => tells_ofExcept ?_
  exact blameless_mapM (fun d => (Document.blameless_ofDatum d).bind h) answer

omit a in
theorem tells_readOne {tell : Fault → Failure} (h : ∀ d, Blameless (read d)) (answer : Datum) :
    (readOne read answer).Tells tell := by
  unfold readOne
  split
  · rw [map_eq_pure_bind]
    exact (tells_ofExcept ((Document.blameless_ofDatum answer).bind h)).bind fun _ => tells_pure _
  · exact tells_pure none

theorem tells_get (on : Collection) (h : ∀ d, Blameless (read d)) (id : Datum) :
    (a.get on read id).Tells (Fault.failure a.call) := by
  refine a.tells_reach.bind fun _ => (tells_ofExcept id.blameless_readInteger).bind fun i => ?_
  exact (a.tells_send _).bind fun answer => tells_readOne h answer

theorem tells_update (on : Collection) (id : Datum) (fields : List (String × Datum)) :
    (a.update on id fields).Tells (Fault.failure a.call) :=
  a.tells_reach.bind fun _ => (tells_ofExcept id.blameless_readInteger).bind fun _ =>
    a.tells_send _

theorem tells_delete (on : Collection) (id : Datum) :
    (a.delete on id).Tells (Fault.failure a.call) := by
  refine a.tells_reach.bind fun _ => (tells_ofExcept id.blameless_readInteger).bind fun i => ?_
  exact (a.tells_send _).bind fun gone => tells_ofExcept (blameless_mapError (fun _ => rfl) _)

theorem tells_nextId (on : Collection) : (a.nextId on).Tells (Fault.failure a.call) := by
  refine (a.tells_request _).bind fun answer => tells_ofExcept ?_
  exact (Document.blameless_ofDatum answer).bind fun d => d.blameless_needInteger _

theorem tells_createTag (draft : TagDraft) :
    (a.createTag draft).Tells (Fault.failure a.call) := by
  refine tells_now.bind fun now => (a.tells_nextId _).bind fun id => ?_
  refine (tells_ofExcept (draft.blameless_document id now)).bind fun document => ?_
  exact (a.tells_request _).bind fun _ => tells_ofExcept (Tag.blameless_ofDocument document)

theorem tells_updateTag (id : Datum) (changes : List TagChange) :
    (a.updateTag id changes).Tells (Fault.failure a.call) := by
  refine (tells_ofExcept (TagChange.blameless_fields changes)).bind fun fields => ?_
  refine tells_now.bind fun now => (a.tells_update _ id _).bind fun answer => ?_
  exact tells_readOne Tag.blameless_ofDocument answer

theorem tells_insertMessage (m : Message) :
    (a.insertMessage m).Tells (Fault.failure a.call) :=
  (tells_ofExcept m.blameless_document).bind fun _ => (a.tells_request _).bind tells_pure

theorem tells_listMessages (query : Store.Query) :
    (a.listMessages query).Tells (Fault.failure a.call) := by
  refine (tells_ofExcept (blameless_queryDevice query.deviceId)).bind fun deviceId => ?_
  refine a.tells_reach.bind fun _ => ?_
  refine (tells_ofExcept query.limit.blameless_readInteger).bind fun limit => ?_
  refine (a.tells_send _).bind fun answer => tells_ofExcept ?_
  exact blameless_mapM (fun d => (Message.blameless_fieldsOf d).bind Message.blameless_ofDocument)
    answer

theorem tells_countByType (type : Datum) :
    (a.countByType type).Tells (Fault.failure a.call) := by
  refine (a.tells_request _).bind fun answer => tells_ofExcept ?_
  exact blameless_mapM blameless_readCount answer

theorem tells_dailyVolumes (since : Moment) :
    (a.dailyVolumes since).Tells (Fault.failure a.call) :=
  (a.tells_request _).bind fun answer => tells_ofExcept (blameless_dailyVolumes answer)

/-! ### Devices that are saved -/

theorem tellsFault_addressFailure (address : Datum) {failure : Failure}
    (h : failure.tellsFault = false) : (addressFailure address failure).tellsFault = false := by
  cases failure <;> exact h

theorem tells_createDevice (draft : DeviceDraft) : (a.createDevice draft).Tells
    fun fault => addressFailure draft.address (fault.failure a.call) := by
  have inserted : (a.insertDevice draft).Tells (Fault.failure a.call) := by
    refine tells_now.bind fun now => (a.tells_nextId _).bind fun id => ?_
    refine (tells_ofExcept (draft.blameless_document id now)).bind fun document => ?_
    exact (a.tells_request _).bind fun _ => tells_pure document
  refine (inserted.withFailure fun _ => tellsFault_addressFailure draft.address).bind
    fun document => ?_
  exact tells_ofExcept (Device.blameless_ofDocument document)

theorem tells_updateDevice (id : Datum) (changes : List DeviceChange) :
    (a.updateDevice id changes).Tells fun fault => addressFailure
      ((changes.filterMap DeviceChange.address?).head?.getD .null) (fault.failure a.call) := by
  refine (tells_ofExcept (DeviceChange.blameless_fields changes)).bind fun fields => ?_
  refine tells_now.bind fun now => ?_
  refine ((a.tells_update _ id _).withFailure fun _ => tellsFault_addressFailure _).bind
    fun answer => ?_
  exact tells_readOne Device.blameless_ofDocument answer

end Access

/-! ### Every store call -/

/-- What a store call fails with when a request of it comes to a fault. -/
def failureOn (c : Store.Call) (fault : Fault) : Failure :=
  match c.savedAddress? with
  | some address => Access.addressFailure address (fault.failure c.name)
  | none => fault.failure c.name

theorem failureOn_driver (c : Store.Call) (kind : FaultKind) (reason : String) :
    failureOn c (.driver kind reason) = c.failureOf kind reason := by
  unfold failureOn Store.Call.failureOf
  cases c.savedAddress? <;> cases kind <;> rfl

theorem failureOn_broken (c : Store.Call) (reason : String) :
    failureOn c (.broken reason) = .crash reason := by
  unfold failureOn
  cases c.savedAddress? <;> rfl

theorem tells_attempt (uri : String) (limit : Option Binary64) (c : Store.Call) :
    (attempt uri limit c).Tells (failureOn c) := by
  let a : Access := ⟨uri, c.name, limit⟩
  cases c with
  | listDevices => exact a.tells_list _ Device.blameless_ofDocument
  | getDevice id => exact a.tells_get _ Device.blameless_ofDocument id
  | createDevice draft => exact a.tells_createDevice draft
  | updateDevice id changes => exact a.tells_updateDevice id changes
  | deleteDevice id => exact a.tells_delete _ id
  | listTags => exact a.tells_list _ Tag.blameless_ofDocument
  | getTag id => exact a.tells_get _ Tag.blameless_ofDocument id
  | createTag draft => exact a.tells_createTag draft
  | updateTag id changes => exact a.tells_updateTag id changes
  | deleteTag id => exact a.tells_delete _ id
  | insertMessage m => exact a.tells_insertMessage m
  | listMessages query => exact a.tells_listMessages query
  | countByType type => exact a.tells_countByType type
  | dailyVolumes since => exact a.tells_dailyVolumes since

/-- A database as it is reached through a driver. -/
structure Link (σ : Type) where
  driver : (c : mongo.Call) → σ → mongo.Answer c × σ
  uri : String
  limit : Store.Call → Option Binary64

namespace Link

variable (l : Link σ)

/-- What a store call comes to over a link, and the state after it. -/
def answer (c : Store.Call) (s : σ) : Except Failure c.Answer × σ :=
  (perform l.uri (l.limit c) c).run l.driver s

/-- The requests of a store call that fail, each with its fault. -/
def faults (c : Store.Call) (s : σ) : List (Request × Fault) :=
  Mongo.faults l.driver (perform l.uri (l.limit c) c) s

theorem comes (c : Store.Call) (s : σ) : Comes (failureOn c) (l.faults c s) (l.answer c s).1 :=
  tells_attempt l.uri (l.limit c) c σ l.driver s

variable {l} {c : Store.Call} {s : σ}

/-- A fault that the driver reports decides what the store call fails with. -/
theorem answer_of_mem_faults {r : Request} {kind : FaultKind} {reason : String}
    (met : (r, .driver kind reason) ∈ l.faults c s) :
    (l.answer c s).1 = .error (c.failureOf kind reason) := by
  rw [← failureOn_driver]
  exact (l.comes c s).of_mem met

/-- A store call does not tell of a fault unless the driver reports one. -/
theorem exists_fault_of_answer {failure : Failure} (tells : failure.tellsFault = true)
    (failed : (l.answer c s).1 = .error failure) :
    ∃ r kind reason, (r, .driver kind reason) ∈ l.faults c s ∧
      failure = c.failureOf kind reason := by
  have comes := l.comes c s
  rw [failed] at comes
  obtain ⟨r, fault, met, rfl⟩ := comes.exists_fault tells
  cases fault with
  | driver kind reason => exact ⟨r, kind, reason, met, failureOn_driver c kind reason⟩
  | broken reason =>
    rw [failureOn_broken] at tells
    cases tells

end Link

end Mongo

end DeviceAlerts
