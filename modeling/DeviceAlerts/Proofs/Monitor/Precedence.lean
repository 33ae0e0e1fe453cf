import DeviceAlerts.Monitor.Intake
import DeviceAlerts.Proofs.Monitor.Exchange
import DeviceAlerts.Proofs.Monitor.Site
import DeviceAlerts.Proofs.Store.Creation

/-! Numbers are never used again. Whatever is done at a site, by clients or by the hysteresis, and
whatever fails of it, a record that is created comes after all that was ever shown, even after what
has been deleted since. A device therefore never falls under the rules of one that was deleted
before, and rules that stay in force are always tried in the same order. -/

namespace DeviceAlerts

open DeviceAlerts.Store DeviceAlerts.Time

namespace Monitor

namespace Exchange

/-- The stamps of the records of a part that were shown. -/
def shown (e : Exchange) (p : Part) : List Stamp :=
  match e with
  | ⟨.store c, (.ok a : Except Failure c.Answer)⟩ => c.shows a p
  | _ => []

/-- The stamp of the record of a part that was created. -/
def created? (e : Exchange) (p : Part) : Option Stamp :=
  match e with
  | ⟨.store c, (.ok a : Except Failure c.Answer)⟩ => c.creates a p
  | _ => none

end Exchange

/-! ### One question -/

/-- What a question makes of the store, and what is told of it: nothing happens, or a call is
performed. -/
inductive Asked (before : Store) : Store → Exchange → Prop
  | idle {e : Exchange} (shown : ∀ p, e.shown p = []) (created : ∀ p, e.created? p = none) :
    Asked before before e
  | performed (now : Moment) (c : Store.Call) :
    Asked before (before.perform now c).2 ⟨.store c, (before.perform now c).1⟩

namespace Asked

variable {before after : Store} {e : Exchange} (h : Asked before after e)

include h

theorem reachable (start : before.Reachable) : after.Reachable := by
  cases h with
  | idle => exact start
  | performed now c => exact start.perform now c

theorem progress (ordered : before.Ordered) (p : Part) :
    Progress (before.counter p) (before.stamps p) (after.counter p) (after.stamps p) := by
  cases h with
  | idle => exact .thinned (Int.le_refl _) (List.Sublist.refl _)
  | performed now c => exact progress_perform ordered now c p

theorem ordered (start : before.Ordered) : after.Ordered :=
  fun p => (h.progress start p).inSequence (start p)

theorem mem_stamps {p : Part} {r : Stamp} (shown : r ∈ e.shown p) : r ∈ after.stamps p := by
  cases h with
  | idle nothing =>
    rw [nothing p] at shown
    cases shown
  | performed now c =>
    cases hanswer : (before.perform now c).1 with
    | error failure =>
      rw [hanswer] at shown
      cases shown
    | ok a =>
      rw [hanswer] at shown
      exact mem_stamps_of_shows hanswer shown

theorem id_of_created {p : Part} {r : Stamp} (created : e.created? p = some r) :
    r.id = .int (before.counter p) := by
  cases h with
  | idle _ nothing =>
    rw [nothing p] at created
    cases created
  | performed now c =>
    cases hanswer : (before.perform now c).1 with
    | error failure =>
      rw [hanswer] at created
      cases created
    | ok a =>
      rw [hanswer] at created
      exact id_of_creates hanswer created

end Asked

namespace Setting

variable {α β : Type}

theorem asked (s : Setting) (c : Call) :
    Asked s.site.store (answer c s).2.site.store ⟨c, (answer c s).1⟩ := by
  cases c with
  | store call =>
    cases hfault : (s.chances 0).fault with
    | some failure =>
      rw [s.answer_store_error hfault]
      exact .idle (fun _ => rfl) fun _ => rfl
    | none =>
      rw [s.answer_store_ok hfault]
      exact .performed _ call
  | _ => exact .idle (fun _ => rfl) fun _ => rfl

/-! ### Runs -/

theorem reachable_run {s : Setting} (h : s.site.store.Reachable) (activity : Activity α) :
    (s.run activity).2.site.store.Reachable := by
  induction activity generalizing s with
  | done a => exact h
  | ask c next ih => exact ih _ ((s.asked c).reachable h)

/-- What is created in a run takes no number that was given out before. -/
theorem le_of_created {s : Setting} (h : s.site.store.Ordered) (p : Part) {activity : Activity α}
    {e : Exchange} (he : e ∈ s.exchanges activity) {r : Stamp} (created : e.created? p = some r) :
    ∃ i, s.site.store.counter p ≤ i ∧ r.id = .int i := by
  induction activity generalizing s with
  | done a => cases he
  | ask c next ih =>
    rcases List.mem_cons.mp he with rfl | he
    · exact ⟨_, Int.le_refl _, (s.asked c).id_of_created created⟩
    · have progress := (s.asked c).progress h p
      obtain ⟨i, hi, hid⟩ := ih _ ((s.asked c).ordered h) he
      exact ⟨i, Int.le_trans progress.le hi, hid⟩

/-- A record is created under a greater number than all that were shown before. -/
theorem shown_precedes_created {s : Setting} (h : s.site.store.Ordered) (p : Part)
    (activity : Activity α) :
    (s.exchanges activity).Pairwise fun earlier later =>
      ∀ old ∈ earlier.shown p, ∀ new, later.created? p = some new → old.id.Precedes new.id := by
  induction activity generalizing s with
  | done a => exact .nil
  | ask c next ih =>
    have hafter := (s.asked c).ordered h
    refine List.pairwise_cons.mpr ⟨fun e he old hold new hnew => ?_, ih _ hafter⟩
    -- what is shown is stored, so its number is below a counter that never falls
    obtain ⟨i, hi, oldId⟩ := (hafter p).given old ((s.asked c).mem_stamps hold)
    obtain ⟨j, hj, newId⟩ := le_of_created hafter p he hnew
    exact ⟨i, j, oldId, newId, by omega⟩

end Setting

end Monitor

/-! ### Rules -/

/-- In an ascending list whatever precedes comes first. -/
theorem Datum.sublist_of_precedes {ids : List Datum} (ascending : ids.Pairwise Datum.Precedes)
    {a b : Datum} (ha : a ∈ ids) (hb : b ∈ ids) (hab : a.Precedes b) : [a, b].Sublist ids := by
  induction ids with
  | nil => cases ha
  | cons x rest ih =>
    obtain ⟨hfirst, hrest⟩ := List.pairwise_cons.mp ascending
    rcases List.mem_cons.mp ha with rfl | harest
    · rcases List.mem_cons.mp hb with rfl | hbrest
      · exact absurd hab hab.asymm
      · exact (List.singleton_sublist.mpr hbrest).cons_cons a
    · rcases List.mem_cons.mp hb with rfl | hbrest
      · exact absurd hab (hfirst a harest).asymm
      · exact (ih hrest harest hbrest).cons x

/-- The rules of a device are tried in the order of their tags. -/
theorem Book.ascending_rulesOf {tags : List Tag} {next : Int}
    (sequence : InSequence Tag.id next tags) {now : Moment} {book : Book}
    (h : ofTags tags now = .ok book) (d : Datum) :
    ((book.rulesOf d).map fun r => r.tag.id).Pairwise Datum.Precedes := by
  rw [rulesOf_ofTags h, List.pairwise_map]
  refine List.Pairwise.filterMap Tag.rule? (fun t u htu r hr q hq => ?_)
    (sequence.ascending.filter _)
  rw [(Tag.compile_eq_ok.mp (Tag.rule?_eq_some.mp hr)).1,
    (Tag.compile_eq_ok.mp (Tag.rule?_eq_some.mp hq)).1]
  exact htu

namespace Monitor.Setting

variable {α β : Type}

/-- What is stored after a run. -/
def left (s : Setting) (activity : Activity α) : Store := (s.run activity).2.site.store

/-- At a site that starts with empty stores, whatever is done there and whatever fails: records are
listed in the order of their numbers; a record is created under a greater number than all that were
shown before; updates keep the numbers, the times of creation and the places of all records; and
under a number the listed record is found that has it. A device never has a rule of one that was
shown before it was created, and rules that stay are tried in the same order. -/
theorem numbers_never_reused {s : Setting} (blank : s.site.store = .empty) (first : Activity α)
    (second : Activity β) :
    (∀ p, ((s.left first).stamps p).Pairwise fun a b => a.id.Precedes b.id) ∧
    (∀ p, (s.exchanges first).Pairwise fun earlier later =>
      ∀ old ∈ earlier.shown p, ∀ new, later.created? p = some new → old.id.Precedes new.id) ∧
    (∀ now id changes p,
      ((s.left first).perform now (.updateDevice id changes)).2.stamps p =
        (s.left first).stamps p) ∧
    (∀ now id changes p,
      ((s.left first).perform now (.updateTag id changes)).2.stamps p = (s.left first).stamps p) ∧
    (∀ now id i, id.readInteger = .ok i →
      ∃ found, ((s.left first).perform now (.getDevice id)).1 = .ok found ∧
        ∀ d, found = some d ↔ d ∈ (s.left first).devices.rows ∧ d.id = .int i) ∧
    (∀ now id i, id.readInteger = .ok i →
      ∃ found, ((s.left first).perform now (.getTag id)).1 = .ok found ∧
        ∀ t, found = some t ↔ t ∈ (s.left first).tags.rows ∧ t.id = .int i) ∧
    ((s.exchanges first).Pairwise fun earlier later =>
      ∀ old ∈ earlier.shown .devices, ∀ new, later.created? .devices = some new →
        ∀ tags now book, Book.ofTags tags now = .ok book →
          ∀ r ∈ book.rulesOf new.id, (r.tag.deviceId == old.id) = false) ∧
    ∀ now later before after, Book.ofTags (s.left first).tags.rows now = .ok before →
      Book.ofTags ((s.run first).2.left second).tags.rows later = .ok after →
      ∀ d a b, [a, b].Sublist ((before.rulesOf d).map fun r => r.tag.id) →
        a ∈ (after.rulesOf d).map (fun r => r.tag.id) →
        b ∈ (after.rulesOf d).map (fun r => r.tag.id) →
        [a, b].Sublist ((after.rulesOf d).map fun r => r.tag.id) := by
  have start : s.site.store.Reachable := blank ▸ .empty
  have reachable : (s.left first).Reachable := reachable_run start first
  have ordered := reachable.ordered
  have precedes := fun p => shown_precedes_created start.ordered p first
  refine ⟨fun p => (ordered p).ascending, precedes, ?_, ?_, ?_, ?_, ?_, ?_⟩
  · intro now id changes p
    cases p with
    | devices => exact Devices.stamps_update ordered.devices now id changes
    | rules => rfl
  · intro now id changes p
    cases p with
    | devices => rfl
    | rules => exact Tags.stamps_update ordered.tags now id changes
  · intro now id i number
    refine ⟨_, congrArg (Except.map _) number, fun d => ?_⟩
    exact ordered.devices.find?_eq_some_iff
  · intro now id i number
    refine ⟨_, congrArg (Except.map _) number, fun t => ?_⟩
    exact ordered.tags.find?_eq_some_iff
  · refine (precedes .devices).imp fun {earlier later} h old hold new hnew => ?_
    intro tags now book hbook r hr
    obtain ⟨-, -, hdevice⟩ := (Book.mem_rulesOf hbook).mp hr
    refine Bool.eq_false_iff.mpr fun same => ?_
    have := Datum.beq_trans (Datum.beq_symm same) hdevice
    rw [(h old hold new hnew).not_beq] at this
    cases this
  · intro now later before after hbefore hafter d a b hab ha hb
    have afterwards := (reachable_run reachable second).ordered
    have tried := Book.ascending_rulesOf ordered.tags hbefore d
    exact Datum.sublist_of_precedes (Book.ascending_rulesOf afterwards.tags hafter d) ha hb
      (List.pairwise_iff_forall_sublist.mp tried hab)

/-! A pump is to be warned of. A message trips the hysteresis and the next one clears it, so a tag
comes and goes before the last one is created; then the pump is deleted and created again. -/

def vacant : Setting where
  site := .fresh .empty
  chances _ := .calm ⟨0, none⟩

def hot : TagDraft :=
  ⟨.int 1, .text "hot", ⟨.text ".", .text ">", .text "5", .int 0⟩, .text "Hot", .text "critical"⟩

/-- The tag under another name. -/
def hotAs (name : String) : TagDraft := { hot with name := .text name }

def upkeep : Activity Unit := do
  let _ ← askStore (.createDevice (machine "pump" "10.0.0.1" (.list [])))
  let _ ← askStore (.createTag hot)
  loadAll
  let _ ← ingest ⟨"9", "info", "core", "10.0.0.1"⟩
  let _ ← ingest ⟨"3", "info", "core", "10.0.0.1"⟩
  let _ ← askStore (.createTag (hotAs "hot again"))
  let _ ← askStore (.deleteDevice (.int 1))
  let _ ← askStore (.createDevice (machine "pump" "10.0.0.1" (.list [])))

def warmer : Activity Unit := do
  let _ ← askStore (.updateTag (.text "1") [.name (.text "warm")])

theorem rows_upkeep : (vacant.left upkeep).tags.rows =
    [hot.stored 1 ⟨0, none⟩, (hotAs "hot again").stored 3 ⟨0, none⟩] := by
  decide +kernel

theorem rows_warmer : ((vacant.run upkeep).2.left warmer).tags.rows =
    [(hotAs "warm").stored 1 ⟨0, none⟩, (hotAs "hot again").stored 3 ⟨0, none⟩] := by
  decide +kernel

theorem numbers_never_reused_upkeep :
    ((vacant.exchanges upkeep).filterMap (·.created? .rules)).map (·.id) =
      [.int 1, .int 2, .int 3] ∧
    ((vacant.exchanges upkeep).filterMap (·.created? .devices)).map (·.id) = [.int 1, .int 2] ∧
    (∃ found, ((vacant.left upkeep).perform ⟨0, none⟩ (.getTag (.text "2"))).1 = .ok found ∧
      ∀ t, found = some t ↔ t ∈ (vacant.left upkeep).tags.rows ∧ t.id = .int 2) ∧
    ∃ after, Book.ofTags ((vacant.run upkeep).2.left warmer).tags.rows ⟨0, none⟩ = .ok after ∧
      [.int 1, .int 3].Sublist ((after.rulesOf (.int 1)).map fun r => r.tag.id) := by
  obtain ⟨-, -, -, -, -, found, -, order⟩ :=
    @numbers_never_reused Unit Unit vacant rfl upkeep warmer
  refine ⟨by decide +kernel, by decide +kernel, found _ _ 2 (by decide +kernel), ?_⟩
  rw [rows_upkeep, rows_warmer] at order
  rw [rows_warmer]
  obtain ⟨before, hbefore⟩ : ∃ before, Book.ofTags
      [hot.stored 1 ⟨0, none⟩, (hotAs "hot again").stored 3 ⟨0, none⟩] ⟨0, none⟩ = .ok before :=
    ⟨_, rfl⟩
  obtain ⟨after, hafter⟩ : ∃ after, Book.ofTags
      [(hotAs "warm").stored 1 ⟨0, none⟩, (hotAs "hot again").stored 3 ⟨0, none⟩] ⟨0, none⟩ =
        .ok after :=
    ⟨_, rfl⟩
  have tried : (before.rulesOf (.int 1)).map (fun r => r.tag.id) = [.int 1, .int 3] := by
    rw [Book.rulesOf_ofTags hbefore]
    decide +kernel
  have stays : (after.rulesOf (.int 1)).map (fun r => r.tag.id) = [.int 1, .int 3] := by
    rw [Book.rulesOf_ofTags hafter]
    decide +kernel
  refine ⟨after, hafter, order _ _ before after hbefore hafter (.int 1) _ _ ?_ ?_ ?_⟩
  · rw [tried]
  · rw [stays]
    exact List.mem_cons_self
  · rw [stays]
    exact List.mem_cons_of_mem _ List.mem_cons_self

end Monitor.Setting

end DeviceAlerts
