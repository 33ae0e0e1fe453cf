import DeviceAlerts.Proofs.Monitor.Batch
import DeviceAlerts.Proofs.Monitor.Editing

/-! Steady runs. No store call fails and no pattern is beyond the limits of the compiler, so every
refresh succeeds. Before each message and each edit the rules in force are those of the stored tags,
and what comes of it, at most one change of the tags, can be read off the rules. -/

namespace DeviceAlerts

open DeviceAlerts.Monitor DeviceAlerts.Time

/-! ### Patterns -/

/-- A pattern that compiles or is at least no more than a fault of its tag. -/
def Condition.Bearable (regexp : Datum) : Prop :=
  ∀ limit, compileRegexp regexp ≠ .error (.limit limit)

def TagChange.Bearable : TagChange → Prop
  | regexp given => Condition.Bearable given
  | _ => True

theorem TagChange.bearable_applyAll {t : Tag} (h : Condition.Bearable t.condition.regexp)
    {changes : List TagChange} (given : ∀ c ∈ changes, c.Bearable) :
    Condition.Bearable (applyAll t changes).condition.regexp := by
  induction changes generalizing t with
  | nil => exact h
  | cons c rest ih =>
    obtain ⟨hc, hrest⟩ := List.forall_mem_cons.mp given
    refine ih ?_ hrest
    cases c with
    | regexp given => exact hc
    | _ => exact h

namespace Store.Tags

/-- A tag after changes, which are made only if all their fields are known. -/
def revised (now : Moment) (changes : List TagChange) (t : Tag) : Tag :=
  if (changes.filterMap TagChange.unknown?).isEmpty then
    { TagChange.applyAll t changes with updatedAt := .moment now }
  else t

theorem id_revised (now : Moment) (changes : List TagChange) (t : Tag) :
    (revised now changes t).id = t.id := by
  unfold revised
  split
  · exact id_applyAll t changes
  · rfl

theorem rows_update {s : Tags} (h : s.Numbered) (now : Moment) (i : Int)
    (changes : List TagChange) : (s.update now (.int i) changes).2.rows =
      s.rows.map fun t => if t.id = .int i then revised now changes t else t := by
  simp only [Tags.update, revised]
  cases hknown : (changes.filterMap TagChange.unknown?).isEmpty with
  | false =>
    simp only [Bool.not_false, if_true, Bool.false_eq_true, if_false, ite_self, List.map_id']
  | true =>
    have number : (Datum.int i).readInteger = .ok i := rfl
    simp only [Bool.not_true, Bool.false_eq_true, if_false, if_true, number]
    cases hfind : s.find? i with
    | none =>
      have absent : ∀ t ∈ s.rows, t.id ≠ .int i := by
        simpa [Tags.find?] using hfind
      exact ((List.map_congr_left fun t ht => if_neg (absent t ht)).trans (List.map_id _)).symm
    | some old =>
      have hold : old.id = .int i := by simpa using List.find?_some hfind
      have hnew : (TagChange.applyAll old changes).id = .int i :=
        (id_applyAll old changes).trans hold
      refine List.map_congr_left fun t ht => ?_
      by_cases hid : t.id = .int i
      · obtain rfl := h.eq_of_id ht (List.mem_of_find?_eq_some hfind) (hid.trans hold.symm)
        rw [if_pos (hid.trans hnew.symm), if_pos hid]
      · rw [if_neg fun same => hid (same.trans hnew), if_neg hid]

/-- Tags that stop no refresh, whatever is changed in them later. -/
structure Wholesome (s : Tags) : Prop where
  sound : s.Sound
  bearable : ∀ t ∈ s.rows, Condition.Bearable t.condition.regexp

theorem Wholesome.loadable {s : Tags} (h : s.Wholesome) : ∀ t ∈ s.rows, t.Loadable :=
  fun t ht => (Tag.loadable_iff (h.sound.typed t ht).draft).mpr fun _ => h.bearable t ht

end Store.Tags

/-! ### Edits -/

namespace Monitor.Edit

/-- The tags after an edit. -/
def after (now : Moment) (tags : Store.Tags) : Edit → Store.Tags
  | create draft => (tags.create now draft).2
  | update id changes => (tags.update now id changes).2
  | delete id => (tags.delete id).2

/-- What is handed in has the types that are asked for, and its patterns are bearable. -/
def Proper : Edit → Prop
  | create draft => draft.Typed ∧ Condition.Bearable draft.condition.regexp
  | update id changes => (∃ i : Int, id = .int i) ∧ ∀ c ∈ changes, c.Typed ∧ c.Bearable
  | delete id => ∃ i : Int, id = .int i

theorem perform_call (store : Store) (now : Moment) (e : Edit) :
    (store.perform now e.call).2 = { store with tags := e.after now store.tags } := by
  cases e <;> rfl

theorem wholesome {tags : Store.Tags} (h : tags.Wholesome) (now : Moment) {e : Edit}
    (proper : e.Proper) : (e.after now tags).Wholesome := by
  cases e with
  | create draft =>
    refine ⟨h.sound.create now proper.1, fun t ht => ?_⟩
    rcases List.mem_append.mp ht with ht | ht
    · exact h.bearable t ht
    · obtain rfl := List.mem_singleton.mp ht
      exact proper.2
  | update id changes =>
    obtain ⟨⟨i, rfl⟩, given⟩ := proper
    refine ⟨h.sound.update now _ fun c hc => (given c hc).1, ?_⟩
    rw [after, Store.Tags.rows_update h.sound.numbered, List.forall_mem_map]
    intro t ht
    unfold Store.Tags.revised
    split <;> try split
    · exact TagChange.bearable_applyAll (h.bearable t ht) fun c hc => (given c hc).2
    · exact h.bearable t ht
    · exact h.bearable t ht
  | delete id =>
    exact ⟨h.sound.delete id, fun t ht => h.bearable t ((tags.sublist_delete id).subset ht)⟩

end Monitor.Edit

/-! ### Plans -/

namespace Monitor.Plan

/-- What becomes of the tags. -/
def edit? : Plan → Option Edit
  | delete id => some (.delete id)
  | create draft => some (.create draft)
  | ignore | settled _ => none

/-- What is reported when nothing fails. -/
def transition? : Plan → Option Transition
  | ignore => none
  | settled transition => some transition
  | delete _ => some .deleted
  | create _ => some .created

end Monitor.Plan

/-! ### Settings -/

namespace Monitor.Setting

/-- Nothing will fail. -/
structure Sheltered (s : Setting) : Prop where
  tags : s.site.store.tags.Wholesome
  inOrder : s.site.rules.published ≤ s.site.rules.issued
  smooth : s.Smooth

/-- Nothing will fail, and the rules of the stored tags are in force. -/
structure Steady (s : Setting) : Prop extends Sheltered s where
  loaded : ∃ now, Book.ofTags s.rows now = .ok s.site.rules.snapshot

variable {s : Setting}

/-- The tags after at most one edit. -/
def edited (tags : Store.Tags) (now : Moment) (deed : Option Edit) : Store.Tags :=
  deed.elim tags (·.after now tags)

theorem Steady.later (h : s.Steady) : (s.later s.site).Steady :=
  ⟨⟨h.tags, h.inOrder, h.smooth.later s.site⟩, h.loaded⟩

theorem Sheltered.refresh (h : s.Sheltered) : ∃ book, (s.run refreshRules).1 = .ok book ∧
    (s.run refreshRules).2.Steady ∧ (s.run refreshRules).2.site.store = s.site.store := by
  have hbook : Book.ofTags s.site.store.tags.rows (s.chances 3).now = .ok _ :=
    Book.ofTags_eq_ok.mpr ⟨h.tags.loadable, rfl⟩
  obtain ⟨hanswer, hsite⟩ := s.run_refreshRules_ok (h.smooth 1) hbook h.inOrder
  have hsmooth := h.smooth.run refreshRules
  refine ⟨_, hanswer, ?_, by rw [hsite]⟩
  generalize (s.run refreshRules).2 = after at hsite hsmooth
  obtain ⟨site, chances⟩ := after
  subst hsite
  exact ⟨⟨h.tags, Int.le_refl _, hsmooth⟩, _, hbook⟩

/-- A reload that is followed by an answer. -/
theorem Sheltered.reload {α : Type} (h : s.Sheltered) (otherwise : Notice) (a : α) :
    (s.run (reloadRules otherwise >>= fun _ => pure a)).1 = a ∧
      (s.run (reloadRules otherwise >>= fun _ => pure a)).2.Steady ∧
      (s.run (reloadRules otherwise >>= fun _ => pure a)).2.site.store = s.site.store := by
  obtain ⟨book, hanswer, hsteady, hstore⟩ := h.refresh
  have hrun : (s.run (reloadRules otherwise)).2 = (s.run refreshRules).2 := by
    show (s.run (Part.rules.reload otherwise)).2 = _
    rw [reload_eq, run_bind]
    rw [show (s.run Part.rules.refresh).1 = .ok book from hanswer]
    rfl
  rw [run_bind]
  show a = a ∧ (s.run (reloadRules otherwise)).2.Steady ∧
    (s.run (reloadRules otherwise)).2.site.store = _
  rw [hrun]
  exact ⟨rfl, hsteady, hstore⟩

/-- An edit before its refresh. -/
theorem Sheltered.edit (h : s.Sheltered) {e : Edit} (proper : e.Proper) :
    (s.run (askStore e.call)).1 = (s.site.store.perform (s.chances 0).now e.call).1 ∧
      (s.run (askStore e.call)).2.Sheltered ∧
      (s.run (askStore e.call)).2.site.store.tags =
        e.after (s.chances 0).now s.site.store.tags := by
  rw [run_askStore, s.answer_store_ok (h.smooth 0), e.perform_call]
  exact ⟨rfl, ⟨e.wholesome h.tags _ proper, h.inOrder, h.smooth.later _⟩, rfl⟩

/-! ### Winners -/

section

variable {r : Rule}

theorem Sheltered.clear (h : s.Sheltered) (stored : r.tag ∈ s.rows) :
    (s.run (Monitor.clear r)).1 = .deleted ∧ (s.run (Monitor.clear r)).2.Steady ∧
      (s.run (Monitor.clear r)).2.site.store.tags = (s.site.store.tags.delete r.tag.id).2 := by
  obtain ⟨i, hid⟩ := (h.tags.sound.typed r.tag stored).id
  obtain ⟨hanswer, hsheltered, htags⟩ := h.edit (e := .delete r.tag.id) ⟨i, hid⟩
  have hdelete := Store.Tags.delete_stored hid stored
  rw [show (s.site.store.perform (s.chances 0).now (Edit.delete r.tag.id).call).1 = .ok true from
    congrArg Prod.fst hdelete] at hanswer
  obtain ⟨hdeleted, hsteady, hstore⟩ := hsheltered.reload .transitionNotLoaded Transition.deleted
  have hrun : s.run (Monitor.clear r) = Setting.run (s.run (askStore (.deleteTag r.tag.id))).2
      (reloadRules .transitionNotLoaded >>= fun _ => pure .deleted) := by
    rw [clear_eq, run_bind, show (s.run (askStore (.deleteTag r.tag.id))).1 = .ok true from hanswer]
    rfl
  rw [hrun]
  exact ⟨hdeleted, hsteady, (congrArg Store.tags hstore).trans htags⟩

theorem Sheltered.trip (h : s.Sheltered) {draft : TagDraft}
    (proper : (Edit.create draft).Proper) :
    (s.run (Monitor.trip r draft)).1 = .created ∧ (s.run (Monitor.trip r draft)).2.Steady ∧
      (s.run (Monitor.trip r draft)).2.site.store.tags =
        (s.site.store.tags.create (s.chances 0).now draft).2 := by
  obtain ⟨hanswer, hsheltered, htags⟩ := h.edit proper
  obtain ⟨hcreated, hsteady, hstore⟩ := hsheltered.reload .transitionNotLoaded Transition.created
  have hrun : s.run (Monitor.trip r draft) = Setting.run (s.run (askStore (.createTag draft))).2
      (reloadRules .transitionNotLoaded >>= fun _ => pure .created) := by
    unfold Monitor.trip
    rw [run_bind, show (s.run (askStore (.createTag draft))).1 = .ok _ from hanswer]
  rw [hrun]
  exact ⟨hcreated, hsteady, (congrArg Store.tags hstore).trans htags⟩

/-- What a rule that is in force calls for is done. -/
theorem Steady.handle (h : s.Steady) {d : Datum} (hr : r ∈ s.site.rules.snapshot.rulesOf d) :
    (s.run (Monitor.handle r)).1 = (plan r s.site.rules.snapshot).transition? ∧
      (s.run (Monitor.handle r)).2.Steady ∧ ∃ now,
        (s.run (Monitor.handle r)).2.site.store.tags =
          edited s.site.store.tags now (plan r s.site.rules.snapshot).edit? := by
  obtain ⟨now, hbook⟩ := h.loaded
  have stored : r.tag ∈ s.rows := ((Book.mem_rulesOf hbook).mp hr).1
  have typed := h.tags.sound.typed r.tag stored
  unfold Monitor.handle
  rw [run_bind, run_readBook]
  cases hplan : plan r s.site.rules.snapshot with
  | ignore => exact ⟨rfl, h.later, now, rfl⟩
  | settled transition => exact ⟨rfl, h.later, now, rfl⟩
  | delete id =>
    obtain ⟨rfl, -, -⟩ := of_plan_delete hplan
    obtain ⟨hanswer, hsteady, htags⟩ := h.later.toSheltered.clear stored
    simp only [run_bind]
    exact ⟨congrArg some hanswer, hsteady, now, htags⟩
  | create draft =>
    obtain ⟨rfl, -, -, -⟩ := of_plan_create hplan
    obtain ⟨hanswer, hsteady, htags⟩ := h.later.toSheltered.trip (r := r)
      ⟨typed.recovery, h.tags.bearable r.tag stored⟩
    simp only [run_bind]
    exact ⟨congrArg some hanswer, hsteady, _, htags⟩

end

/-! ### Messages -/

/-- What a message calls for under the rules in force. -/
def calledFor (m : Message) (book : Book) : Plan :=
  ((scan (body m) (book.rulesOf m.deviceId)).2.map (plan · book)).getD .ignore

theorem Steady.classify (h : s.Steady) {m : Message} (keyed : m.deviceId.asKey = .ok m.deviceId) :
    (s.run (Monitor.classify m)).1 =
        .ok ((scan (body m) (s.site.rules.snapshot.rulesOf m.deviceId)).2.elim (.quiet m) fun r =>
          verdict m r (calledFor m s.site.rules.snapshot).transition?) ∧
      (s.run (Monitor.classify m)).2.Steady ∧ ∃ now,
        (s.run (Monitor.classify m)).2.site.store.tags =
          edited s.site.store.tags now (calledFor m s.site.rules.snapshot).edit? := by
  unfold calledFor
  cases hwinner : (scan (body m) (s.site.rules.snapshot.rulesOf m.deviceId)).2 with
  | none =>
    rw [s.run_classify_quiet keyed hwinner]
    exact ⟨rfl, h.later.later, ⟨0, none⟩, rfl⟩
  | some r =>
    rw [s.run_classify_won keyed hwinner, reaction]
    by_cases hthreshold : r.isThreshold = true
    · obtain ⟨hanswer, hsteady, htags⟩ := h.later.later.handle (mem_of_winner hwinner)
      rw [if_pos hthreshold]
      exact ⟨congrArg (Except.ok ∘ verdict m r) hanswer, hsteady, htags⟩
    · have hignored : plan r s.site.rules.snapshot = .ignore := by
        simp [plan, hthreshold]
      rw [if_neg hthreshold, Option.map_some, hignored]
      exact ⟨rfl, h.later.later, ⟨0, none⟩, rfl⟩

end Monitor.Setting

end DeviceAlerts
