import DeviceAlerts.Proofs.Course
import DeviceAlerts.Proofs.Mongo.Documents
import DeviceAlerts.Proofs.Mongo.Reference
import DeviceAlerts.Proofs.Store.Renumbering

/-! The two stores are interchangeable for devices and tags. The store in a database that does as it
is documented to do answers like the store in memory, except that a new device uses up a number even
if it is refused. Over a run the numbers of the devices are therefore others, but in the same
order. -/

namespace DeviceAlerts.Mongo

open DeviceAlerts.Number DeviceAlerts.Store DeviceAlerts.Time

/-! ### What is stored -/

/-- The documents are those of the devices and tags of a store, and the counters stand before its
next numbers. -/
structure Mirrors (db : Database) (s : Store) : Prop where
  deviceDocuments : db.documents .devices = s.devices.rows.map Device.document
  deviceCount : db.count Collection.devices.name + 1 = s.devices.nextId
  tagDocuments : db.documents .tags = s.tags.rows.map Tag.document
  tagCount : db.count Collection.tags.name + 1 = s.tags.nextId
  devices : s.devices.Sound
  tags : s.tags.Ordered

theorem orderly_devices {devices : Devices} (h : devices.Sound) :
    Device.codec.Orderly devices.nextId devices.rows := by
  refine ⟨h.sequence, h.typed, (h.sequence.id_ne.and h.apart).imp fun {d e} hne => ?_⟩
  show clash .devices d.document e.document = false
  rw [Device.clash_document, decide_eq_false hne.1, decide_eq_false hne.2]
  rfl

theorem orderly_tags {tags : Tags} (h : tags.Ordered) :
    Tag.codec.Orderly tags.nextId tags.rows := by
  refine ⟨h.sequence, h.typed, h.sequence.id_ne.imp fun {t u} hne => ?_⟩
  show clash .tags t.document u.document = false
  rw [Tag.clash_document, decide_eq_false hne]

namespace Mirrors

variable {db : Database} {s : Store}

theorem holdsDevices (m : Mirrors db s) :
    Device.codec.Holds s.devices.nextId db s.devices.rows :=
  ⟨m.deviceDocuments, orderly_devices m.devices⟩

theorem holdsTags (m : Mirrors db s) : Tag.codec.Holds s.tags.nextId db s.tags.rows :=
  ⟨m.tagDocuments, orderly_tags m.tags⟩

theorem putDevices (m : Mirrors db s) {rows : List Device}
    (sound : Devices.Sound ⟨s.devices.nextId, rows⟩) :
    Mirrors (db.put .devices (rows.map Device.document))
      { s with devices := ⟨s.devices.nextId, rows⟩ } where
  deviceDocuments := db.documents_put_self _ _
  deviceCount := m.deviceCount
  tagDocuments := (db.documents_put_of_ne _ _ (by decide)).trans m.tagDocuments
  tagCount := m.tagCount
  devices := sound
  tags := m.tags

theorem putTags (m : Mirrors db s) {rows : List Tag}
    (ordered : Tags.Ordered ⟨s.tags.nextId, rows⟩) :
    Mirrors (db.put .tags (rows.map Tag.document)) { s with tags := ⟨s.tags.nextId, rows⟩ } where
  deviceDocuments := (db.documents_put_of_ne _ _ (by decide)).trans m.deviceDocuments
  deviceCount := m.deviceCount
  tagDocuments := db.documents_put_self _ _
  tagCount := m.tagCount
  devices := m.devices
  tags := ordered

theorem advancedDevices (m : Mirrors db s) : Mirrors (db.advanced Collection.devices.name)
    { s with devices := ⟨s.devices.nextId + 1, s.devices.rows⟩ } where
  deviceDocuments := m.deviceDocuments
  deviceCount := by rw [db.count_advanced_self, m.deviceCount]
  tagDocuments := m.tagDocuments
  tagCount := by rw [db.count_advanced_of_ne _ (by decide), m.tagCount]
  devices := { m.devices with sequence := m.devices.sequence.succ }
  tags := m.tags

theorem advancedTags (m : Mirrors db s) : Mirrors (db.advanced Collection.tags.name)
    { s with tags := ⟨s.tags.nextId + 1, s.tags.rows⟩ } where
  deviceDocuments := m.deviceDocuments
  deviceCount := by rw [db.count_advanced_of_ne _ (by decide), m.deviceCount]
  tagDocuments := m.tagDocuments
  tagCount := by rw [db.count_advanced_self, m.tagCount]
  devices := m.devices
  tags := { m.tags with sequence := m.tags.sequence.succ }

end Mirrors

/-! ### Calls -/

section

variable {σ : Type} {answer : Moment → (c : mongo.Call) → σ → mongo.Answer c × σ}
  {view : σ → Database} (h : Documented answer view) {db : Database} {s : Store}
  (m : Mirrors db s) (now : Moment) (a : Access)

include h m

/-- A device is refused if its address is taken; a number is used up in any case. -/
theorem exists_createDevice {draft : DeviceDraft} (typed : draft.Typed) : ∃ after,
    (a.createDevice draft).Yields (answer now) view db (· = (s.devices.create now draft).1) after ∧
      Mirrors after { s with
        devices := ⟨s.devices.nextId + 1, (s.devices.create now draft).2.rows⟩ } := by
  have counted := h.yields_nextId db now a .devices
  rw [m.deviceCount] at counted
  have holds := m.advancedDevices.holdsDevices
  have created : s.devices.Created now draft (s.devices.create now draft) :=
    Devices.created_create typed
  have sound := created.sound m.devices typed
  generalize s.devices.create now draft = result at created sound ⊢
  cases created with
  | @taken other stored same =>
    obtain ⟨people, responsible⟩ := typed.responsible
    have clashes : clash .devices other.document
        (draft.stored people s.devices.nextId now).document = true := Device.clash_of_address same
    have refused := h.refuses_insert holds now a (typed.stored people _ now) stored clashes
    have failed : (a.insertDevice draft).Yields (answer now) view db IsDuplicate
        (db.advanced Collection.devices.name) :=
      (h.yields_now now).bind_ok (counted.bind_ok ((Attempt.yields_ok
        (DeviceDraft.document_typed responsible _ now)).bind_ok refused.bind_duplicate))
    refine ⟨db.advanced Collection.devices.name, (failed.withFailure ?_).bind_error, ?_⟩
    · rintro _ ⟨reason, rfl⟩
      rfl
    · exact m.advancedDevices
  | @free people responsible apart =>
    have inserted := h.yields_insert holds now a (orderly_devices sound)
    have succeeded : (a.insertDevice draft).Yields (answer now) view db
        (· = .ok (draft.stored people s.devices.nextId now).document) _ :=
      (h.yields_now now).bind_ok (counted.bind_ok ((Attempt.yields_ok
        (DeviceDraft.document_typed responsible _ now)).bind_ok
          (inserted.bind_ok (Attempt.yields_pure _))))
    refine ⟨_, (succeeded.withFailure ?_).bind_ok
      (Attempt.yields_ok (Device.ofDocument_document (typed.stored people _ now))), ?_⟩
    · rintro _ rfl
      rfl
    · exact m.advancedDevices.putDevices sound

/-- Changes are refused if they give a device the address of another. -/
theorem exists_updateDevice {changes : List DeviceChange} (typed : ∀ c ∈ changes, c.Typed)
    (once : (changes.filterMap DeviceChange.address?).length ≤ 1) (i : Int) : ∃ after,
    (a.updateDevice (.int i) changes).Yields (answer now) view db
        (· = (s.devices.update now (.int i) changes).1) after ∧
      Mirrors after { s with devices := (s.devices.update now (.int i) changes).2 } := by
  obtain ⟨fields, hfields, written⟩ := DeviceChange.exists_fields typed
  have updated : s.devices.Updated now i changes (s.devices.update now (.int i) changes) :=
    Devices.updated_update m.devices typed once i
  have sound := updated.sound m.devices typed
  generalize s.devices.update now (.int i) changes = result at updated sound ⊢
  cases updated with
  | missing absent =>
    have nothing := h.yields_update_missing m.holdsDevices now a absent
      (fields ++ [("updatedAt", .moment now)])
    refine ⟨db, (Attempt.yields_ok hfields).bind_ok ((h.yields_now now).bind_ok
      ((nothing.withFailure (Q := (· = .ok .null)) ?_).bind_ok (Attempt.yields_pure _))), m⟩
    rintro _ rfl
    rfl
  | @taken old other found stored different same given =>
    have typedNew := (m.devices.typed old (List.mem_of_find?_eq_some found)).revised typed now
    have refused := h.refuses_update m.holdsDevices now a found (written now old) typedNew stored
      different (Device.clash_of_address same)
    refine ⟨db, (Attempt.yields_ok hfields).bind_ok ((h.yields_now now).bind_ok
      (refused.withFailure ?_).bind_error), m⟩
    rintro _ ⟨reason, rfl⟩
    rw [given]
    rfl
  | @free old found apart =>
    have typedNew := (m.devices.typed old (List.mem_of_find?_eq_some found)).revised typed now
    have same : (DeviceChange.revised now changes old).id = old.id :=
      DeviceChange.id_applyAll old changes
    have succeeded := h.yields_update m.holdsDevices now a found (written now old) same
      (orderly_devices sound)
    refine ⟨_, (Attempt.yields_ok hfields).bind_ok ((h.yields_now now).bind_ok
      ((succeeded.withFailure ?_).bind_ok (Device.codec.yields_readOne typedNew))),
      m.putDevices sound⟩
    rintro _ rfl
    rfl

theorem exists_deleteDevice (i : Int) : ∃ after,
    (a.delete .devices (.int i)).Yields (answer now) view db
        (· = (s.devices.delete (.int i)).1) after ∧
      Mirrors after { s with devices := (s.devices.delete (.int i)).2 } :=
  ⟨_, h.yields_delete m.holdsDevices now a i, m.putDevices (m.devices.delete i)⟩

theorem exists_createTag {draft : TagDraft} (typed : draft.Typed) : ∃ after,
    (a.createTag draft).Yields (answer now) view db (· = .ok (s.tags.create now draft).1) after ∧
      Mirrors after { s with tags := (s.tags.create now draft).2 } := by
  have counted := h.yields_nextId db now a .tags
  rw [m.tagCount] at counted
  have ordered := m.tags.create now typed
  have inserted := h.yields_insert m.advancedTags.holdsTags now a (orderly_tags ordered)
  exact ⟨_, (h.yields_now now).bind_ok (counted.bind_ok ((Attempt.yields_ok
    (TagDraft.document_typed typed _ now)).bind_ok (inserted.bind_ok (Attempt.yields_ok
      (Tag.ofDocument_document (typed.stored _ now)))))), m.advancedTags.putTags ordered⟩

theorem exists_updateTag {changes : List TagChange} (typed : ∀ c ∈ changes, c.Typed)
    (known : ∀ c ∈ changes, c.unknown? = none) (i : Int) : ∃ after,
    (a.updateTag (.int i) changes).Yields (answer now) view db
        (· = (s.tags.update now (.int i) changes).1) after ∧
      Mirrors after { s with tags := (s.tags.update now (.int i) changes).2 } := by
  obtain ⟨fields, hfields, written⟩ := TagChange.exists_fields known
  have updated : s.tags.Updated now i changes (s.tags.update now (.int i) changes) :=
    Tags.updated_update known i
  have ordered := updated.ordered m.tags typed
  generalize s.tags.update now (.int i) changes = result at updated ordered ⊢
  cases updated with
  | missing absent =>
    have nothing := h.yields_update_missing m.holdsTags now a absent
      (fields ++ [("updatedAt", .moment now)])
    exact ⟨db, (Attempt.yields_ok hfields).bind_ok ((h.yields_now now).bind_ok
      (nothing.bind_ok (Attempt.yields_pure _))), m⟩
  | @free old found =>
    have typedNew : (Tags.changed now changes old).Typed :=
      Tags.typed_changed (m.tags.typed old (List.mem_of_find?_eq_some found)) typed
    have same : (Tags.changed now changes old).id = old.id := Tags.id_applyAll old changes
    have succeeded := h.yields_update m.holdsTags now a found (written now old) same
      (orderly_tags ordered)
    exact ⟨_, (Attempt.yields_ok hfields).bind_ok ((h.yields_now now).bind_ok
      (succeeded.bind_ok (Tag.codec.yields_readOne typedNew))), m.putTags ordered⟩

theorem exists_deleteTag (i : Int) : ∃ after,
    (a.delete .tags (.int i)).Yields (answer now) view db (· = (s.tags.delete (.int i)).1) after ∧
      Mirrors after { s with tags := (s.tags.delete (.int i)).2 } :=
  ⟨_, h.yields_delete m.holdsTags now a i, m.putTags (m.tags.delete i)⟩

/-- What a call comes to in the database and in memory, where numbers are used up alike. -/
theorem exists_attempt (uri : String) (limit : Option Binary64) {c : Store.Call}
    (wellFormed : c.WellFormed) : ∃ after,
    (attempt uri limit c).Yields (answer now) view db (· = (s.spend now c).1) after ∧
      Mirrors after (s.spend now c).2 := by
  cases c with
  | listDevices => exact ⟨db, h.yields_list m.holdsDevices now _, m⟩
  | getDevice id =>
    obtain ⟨i, rfl⟩ := wellFormed
    exact ⟨db, h.yields_get m.holdsDevices now _ i, m⟩
  | createDevice draft => exact exists_createDevice h m now _ wellFormed
  | updateDevice id changes =>
    obtain ⟨⟨i, rfl⟩, typed, once⟩ := wellFormed
    exact exists_updateDevice h m now _ typed once i
  | deleteDevice id =>
    obtain ⟨i, rfl⟩ := wellFormed
    exact exists_deleteDevice h m now _ i
  | listTags => exact ⟨db, h.yields_list m.holdsTags now _, m⟩
  | getTag id =>
    obtain ⟨i, rfl⟩ := wellFormed
    exact ⟨db, h.yields_get m.holdsTags now _ i, m⟩
  | createTag draft => exact exists_createTag h m now _ wellFormed
  | updateTag id changes =>
    obtain ⟨⟨i, rfl⟩, typed, known⟩ := wellFormed
    exact exists_updateTag h m now _ typed known i
  | deleteTag id =>
    obtain ⟨i, rfl⟩ := wellFormed
    exact exists_deleteTag h m now _ i
  | _ => exact wellFormed.elim

end

/-! ### Runs -/

/-- A call at a time, which may have to be answered within so many seconds. -/
structure Occasion where
  now : Moment
  limit : Option Binary64
  call : Store.Call

def Occasion.renumbered (f : Int → Int) (o : Occasion) : Occasion :=
  { o with call := o.call.renumbered f }

def inMemory (s : Store) (o : Occasion) : Store × Answered :=
  ((s.perform o.now o.call).2, ⟨o.call, (s.perform o.now o.call).1⟩)

/-- The numbers that the devices of a run are given when every new device uses one up. -/
def granted (s : Store) (next : Int) : List Occasion → List Int
  | [] => []
  | o :: rest =>
    let later := granted (inMemory s o).1 (next + o.call.spent) rest
    if (inMemory s o).2.created?.isSome then next :: later else later

section

variable {σ : Type} (answer : Moment → (c : mongo.Call) → σ → mongo.Answer c × σ) (uri : String)

def inDatabase (s : σ) (o : Occasion) : σ × Answered :=
  ((Program.run (answer o.now) (perform uri o.limit o.call) s).2,
    ⟨o.call, (Program.run (answer o.now) (perform uri o.limit o.call) s).1⟩)

end

theorem inMemory_numbers (s : Store) {o : Occasion} (wellFormed : o.call.WellFormed) :
    match (inMemory s o).2.created? with
    | some device => device.id = .int s.devices.nextId ∧
      (inMemory s o).1.devices.nextId = s.devices.nextId + 1
    | none => (inMemory s o).1.devices.nextId = s.devices.nextId :=
  perform_numbers s o.now wellFormed

/-- Numbers are given in ascending order, though some may be left out. -/
theorem sorted_granted (s : Store) (next : Int) (occasions : List Occasion) :
    (∀ n ∈ granted s next occasions, next ≤ n) ∧
      (granted s next occasions).Pairwise (· < ·) := by
  induction occasions generalizing s next with
  | nil => exact ⟨nofun, .nil⟩
  | cons o rest ih =>
    obtain ⟨hbound, hsorted⟩ := ih (inMemory s o).1 (next + o.call.spent)
    rw [granted]
    split
    · next created =>
      have spent : o.call.spent = 1 := Answered.spent_of_created created
      refine ⟨List.forall_mem_cons.mpr ⟨Int.le_refl _, fun n hn => ?_⟩,
        List.pairwise_cons.mpr ⟨fun n hn => ?_, hsorted⟩⟩ <;>
      · have := hbound n hn
        omega
    · exact ⟨fun n hn => by have := hbound n hn; omega, hsorted⟩

section

variable {σ : Type} {answer : Moment → (c : mongo.Call) → σ → mongo.Answer c × σ}
  {view : σ → Database} (h : Documented answer view) {uri : String} {f : Int → Int}
  (inj : f.Injective)

include h inj

/-- After a call under the other numbers the stores are as alike as before. -/
theorem inDatabase_renumbered {s t : Store} {u : σ}
    (m : Mirrors (view u) t) (r : Renumbers f s t) {o : Occasion}
    (wellFormed : o.call.WellFormed) (given : (inMemory s o).2.created?.isSome = true →
      f s.devices.nextId = t.devices.nextId) :
    (inDatabase answer uri u (o.renumbered f)).2 = (inMemory s o).2.renumbered f ∧
      ∃ later : Store, Mirrors (view (inDatabase answer uri u (o.renumbered f)).1) later ∧
        Renumbers f (inMemory s o).1 later ∧
        later.devices.nextId = t.devices.nextId + o.call.spent := by
  obtain ⟨after, attempted, mirrors⟩ := exists_attempt h m o.now uri o.limit
    (wellFormed.renumbered f)
  obtain ⟨answers, renumbers⟩ := r.spend inj wellFormed fun device created =>
    given (by rw [inMemory, created]; rfl)
  obtain ⟨hanswer, rfl⟩ := attempted u rfl
  refine ⟨(congrArg (Answered.mk _) hanswer).trans answers, _, mirrors, renumbers, ?_⟩
  rw [nextId_spend, Call.spent_renumbered]

/-- A run under the other numbers comes to the same under these numbers. -/
theorem events_inDatabase {s t : Store} {u : σ} (m : Mirrors (view u) t) (r : Renumbers f s t)
    {occasions : List Occasion} (wellFormed : ∀ o ∈ occasions, o.call.WellFormed)
    (follows : Numbering.Follows f s.devices.nextId
      (granted s t.devices.nextId occasions)) :
    Course.events (inDatabase answer uri) u (occasions.map (·.renumbered f)) =
      (Course.events inMemory s occasions).map (·.renumbered f) := by
  induction occasions generalizing s t u with
  | nil => rfl
  | cons o rest ih =>
    obtain ⟨hcall, hrest⟩ := List.forall_mem_cons.mp wellFormed
    rw [granted] at follows
    have given : (inMemory s o).2.created?.isSome = true →
        f s.devices.nextId = t.devices.nextId := fun created => by
      rw [if_pos created] at follows
      exact (Numbering.follows_cons.mp follows).1
    obtain ⟨hanswer, later, mirrors, renumbers, hnext⟩ :=
      inDatabase_renumbered h inj m r hcall given
    rw [List.map_cons, Course.events_cons, Course.events_cons, List.map_cons, hanswer]
    refine congrArg _ (ih mirrors renumbers hrest ?_)
    have numbers := inMemory_numbers s hcall
    rw [hnext]
    cases hcreated : (inMemory s o).2.created? with
    | none =>
      rw [hcreated] at numbers follows
      rw [numbers]
      exact follows
    | some device =>
      rw [hcreated] at numbers follows
      rw [numbers.2]
      exact (Numbering.follows_cons.mp follows).2

end

/-! ### The order of creation -/

def created (events : List Answered) : List Device := events.filterMap Answered.created?

theorem created_renumbered (f : Int → Int) (events : List Answered) :
    created (events.map (·.renumbered f)) = (created events).map (Device.renumbered f) := by
  rw [created, List.filterMap_map, created, List.map_filterMap]
  refine congrArg (List.filterMap · events) (funext fun a => ?_)
  obtain ⟨c, answer⟩ := a
  cases c <;> cases answer <;> rfl

/-- The store in memory numbers devices in the order of their creation. -/
theorem id_created (s : Store) {occasions : List Occasion}
    (wellFormed : ∀ o ∈ occasions, o.call.WellFormed) {k : Nat} {d : Device}
    (hd : (created (Course.events inMemory s occasions))[k]? = some d) :
    d.id = .int (s.devices.nextId + k) := by
  induction occasions generalizing s k with
  | nil => cases hd
  | cons o rest ih =>
    obtain ⟨hcall, hrest⟩ := List.forall_mem_cons.mp wellFormed
    have numbers := inMemory_numbers s hcall
    rw [Course.events_cons, created, List.filterMap_cons] at hd
    cases hcreated : (inMemory s o).2.created? with
    | none =>
      rw [hcreated] at numbers hd
      rw [← numbers]
      exact ih _ hrest hd
    | some device =>
      rw [hcreated] at numbers hd
      cases k with
      | zero =>
        obtain rfl := Option.some.inj hd
        simpa using numbers.1
      | succ k =>
        have hlater := ih _ hrest hd
        rw [numbers.2] at hlater
        rw [hlater, Int.natCast_add, Int.natCast_one, Int.add_assoc, Int.add_comm 1]

/-! ### Both stores -/

/-- From empty stores on, the same calls have the same results, and are refused in the same places,
but for the numbers of devices. The store in memory numbers devices in the order of their creation,
and the numbers in the database are in the same order. Calls name the devices by the numbers that
they have where the calls go. -/
theorem interchangeable {σ : Type} {answer : Moment → (c : mongo.Call) → σ → mongo.Answer c × σ}
    {view : σ → Database} (h : Documented answer view) (uri : String) {s : σ}
    (blank : view s = .empty) {occasions : List Occasion}
    (wellFormed : ∀ o ∈ occasions, o.call.WellFormed) :
    ∃ f : Int → Int, StrictMono f ∧
      Course.events (inDatabase answer uri) s (occasions.map (·.renumbered f)) =
        (Course.events inMemory .empty occasions).map (·.renumbered f) ∧
      ∀ (k : Nat) (d : Device), (created (Course.events inMemory .empty occasions))[k]? = some d →
        d.id = .int (k + 1) := by
  obtain ⟨bound, sorted⟩ := sorted_granted .empty 1 occasions
  have mono : StrictMono (Numbering.spread 1 0 (granted .empty 1 occasions)) :=
    Numbering.strictMono_spread bound sorted
  have mirrors : Mirrors (view s) .empty := by
    rw [blank]
    exact ⟨rfl, rfl, rfl, rfl, Devices.sound_empty, Tags.ordered_empty⟩
  refine ⟨_, mono, events_inDatabase h mono.injective mirrors ⟨rfl, rfl⟩ wellFormed
    (Numbering.follows_spread 1 0 _), fun k d hd => ?_⟩
  rw [id_created .empty wellFormed hd, Int.add_comm]
  rfl

/-! Two devices want the same address, first when they are created and then by a change. -/

def rival (address : String) : DeviceDraft :=
  ⟨.text "pump", .text "sensor", .text address, .list [.int 7]⟩

def rivalry : List Occasion :=
  [⟨⟨0, some 0⟩, none, .createDevice (rival "10.0.0.1")⟩,
    ⟨⟨1, some 0⟩, none, .createDevice (rival "10.0.0.1")⟩,
    ⟨⟨2, some 0⟩, none, .createDevice (rival "10.0.0.2")⟩,
    ⟨⟨3, some 0⟩, none, .updateDevice (.int 2) [.address (.text "10.0.0.1")]⟩,
    ⟨⟨4, some 0⟩, none, .listDevices⟩]

theorem interchangeable_rivalry : ∃ f : Int → Int, StrictMono f ∧ f 2 = 3 ∧
    Course.events (inDatabase answering "") .empty (rivalry.map (·.renumbered f)) =
      (Course.events inMemory .empty rivalry).map (·.renumbered f) := by
  have typed (address : String) : (rival address).Typed :=
    ⟨⟨_, rfl⟩, ⟨_, rfl⟩, ⟨_, rfl⟩, ⟨[7], rfl⟩⟩
  have wellFormed : ∀ o ∈ rivalry, o.call.WellFormed := by
    refine List.forall_mem_cons.mpr ⟨typed _, List.forall_mem_cons.mpr ⟨typed _,
      List.forall_mem_cons.mpr ⟨typed _, List.forall_mem_cons.mpr ⟨⟨⟨2, rfl⟩, ?_, by decide⟩,
        List.forall_mem_singleton.mpr trivial⟩⟩⟩⟩
    exact List.forall_mem_singleton.mpr ⟨"10.0.0.1", rfl⟩
  obtain ⟨f, mono, same, -⟩ :=
    @interchangeable _ answering id documented_answering "" .empty rfl rivalry wellFormed
  refine ⟨f, mono, ?_, same⟩
  have given : (created (Course.events inMemory .empty rivalry)).map Device.id =
      [.int 1, .int 2] := by decide +kernel
  have used : (created (Course.events (inDatabase answering "") .empty
      (rivalry.take 3))).map Device.id = [.int 1, .int 3] := by decide +kernel
  have split : rivalry.map (·.renumbered f) =
      rivalry.take 3 ++ (rivalry.drop 3).map (·.renumbered f) := rfl
  have ids := congrArg (fun events => (created events).map Device.id) same
  have renumbered : Device.id ∘ Device.renumbered f = Datum.renumbered f ∘ Device.id := rfl
  simp only [split, Course.events_append, created_renumbered, List.map_map, renumbered] at ids
  rw [← List.map_map, given, created, List.filterMap_append, List.map_append, ← created,
    used] at ids
  exact (Datum.int.inj (List.cons.inj (List.cons.inj ids).2).1).symm

end DeviceAlerts.Mongo
