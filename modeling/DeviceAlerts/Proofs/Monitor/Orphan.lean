import DeviceAlerts.Proofs.Monitor.Editing
import DeviceAlerts.Proofs.Monitor.Freshness

/-! Recovery tags whose alerting tag is gone. Whoever handles an alerting winner only looks whether
its recovery is in force, not whether the winner still is. So what matters is what has become of the
tag since its rule was made: as long as nobody has deleted it, or changed what it looks for or under
which subject, a recovery that is added has a stored tag to recover from. -/

namespace DeviceAlerts

open DeviceAlerts.Monitor DeviceAlerts.Time

/-! ### Tags that watch for the same -/

namespace Tag

/-- Two tags look for the same, under the same subject. -/
structure SameWatch (a b : Tag) : Prop where
  deviceId : a.deviceId = b.deviceId
  condition : a.condition = b.condition
  subject : a.subject = b.subject

namespace SameWatch

variable {a b c : Tag}

theorem trans (hab : a.SameWatch b) (hbc : b.SameWatch c) : a.SameWatch c :=
  ⟨hab.deviceId.trans hbc.deviceId, hab.condition.trans hbc.condition,
    hab.subject.trans hbc.subject⟩

theorem apply (h : a.SameWatch b) (change : TagChange) :
    (change.apply a).SameWatch (change.apply b) := by
  cases change <;> constructor <;>
    simp only [TagChange.apply, h.deviceId, h.condition, h.subject]

theorem applyAll (h : a.SameWatch b) (changes : List TagChange) :
    (TagChange.applyAll a changes).SameWatch (TagChange.applyAll b changes) := by
  induction changes generalizing a b with
  | nil => exact h
  | cons change rest ih => exact ih (h.apply change)

/-- Tags that watch for the same have recoveries that do. -/
theorem alarm (h : a.SameWatch b) {draft : TagDraft} (alarm : b.alarm? = some draft) :
    ∃ own, a.alarm? = some own ∧ own.concern = draft.concern := by
  have hthreshold : a.isThreshold = b.isThreshold := by rw [isThreshold, isThreshold, h.condition]
  have hrecovery : a.isRecovery = b.isRecovery := by rw [isRecovery, isRecovery, h.subject]
  unfold alarm? at alarm ⊢
  rw [hthreshold, hrecovery]
  split at alarm
  · next halert =>
    obtain ⟨type, htype, rfl⟩ := Option.map_eq_some_iff.mp alarm
    refine ⟨a.recoveryOf type, ?_, ?_⟩
    · rw [if_pos halert, recovery?, h.condition, htype]
      rfl
    · simp only [TagDraft.concern, recoveryOf, h.deviceId, h.condition]
  · cases alarm

end SameWatch

end Tag

namespace Monitor

/-! ### Events that take a watch away -/

/-- Whether a tag is deleted, or changed in what it looks for or in its subject. -/
def Edit.Disarms (t : Tag) : Edit → Prop
  | create _ => False
  | update id changes => (∃ i, id.readInteger = .ok i ∧ t.id = .int i) ∧
      ¬ (TagChange.applyAll t changes).SameWatch t
  | delete id => ∃ i, id.readInteger = .ok i ∧ t.id = .int i

theorem Aftermath.numbered {r : Rule} {s after : Site} {missed : Prop}
    {transition : Option Transition} (h : Aftermath r s missed transition after)
    (before : s.store.tags.Numbered) : after.store.tags.Numbered := by
  cases h with
  | still uncreated => exact before
  | cleared planned answered reloaded =>
    obtain ⟨_, refreshed, _⟩ := reloaded
    rw [refreshed.store]
    exact before.delete _
  | tripped planned reloaded =>
    obtain ⟨_, refreshed, _⟩ := reloaded
    rw [refreshed.store]
    exact before.create _ _

/-- What is added by whoever handles a winner is its recovery. -/
theorem Aftermath.added {r : Rule} {s after : Site} {missed : Prop}
    {transition : Option Transition} (h : Aftermath r s missed transition after) {t : Tag}
    (stored : t ∈ after.rows) (absent : t ∉ s.rows) : ∃ draft id now,
      plan r s.rules.snapshot = .create draft ∧ t = draft.stored id now := by
  cases h with
  | still uncreated => exact absurd stored absent
  | cleared planned answered reloaded =>
    obtain ⟨_, refreshed, _⟩ := reloaded
    rw [Site.rows, refreshed.store] at stored
    exact absurd ((Store.Tags.sublist_delete _ _).subset stored) absent
  | @tripped draft now _ planned reloaded =>
    obtain ⟨_, refreshed, _⟩ := reloaded
    rw [Site.rows, refreshed.store] at stored
    rcases List.mem_append.mp stored with hold | hnew
    · exact absurd hold absent
    · exact ⟨draft, _, now, planned, List.mem_singleton.mp hnew⟩

/-- Unless an edit disarms it, a tag that is stored is followed by one that watches for the same. -/
theorem Edit.watched {store : Store} (numbered : store.tags.Numbered) {t u : Tag}
    (stored : u ∈ store.tags.rows) (id : u.id = t.id) (same : u.SameWatch t) (now : Moment)
    {e : Edit} (armed : ¬ e.Disarms t) :
    ∃ v ∈ (store.perform now e.call).2.tags.rows, v.id = t.id ∧ v.SameWatch t := by
  cases e with
  | create draft => exact ⟨u, List.mem_append_left _ stored, id, same⟩
  | delete given =>
    rcases Store.Tags.mem_delete_or stored given with hkept | ⟨i, hi, hnumber⟩
    · exact ⟨u, hkept, id, same⟩
    · exact absurd ⟨i, hi, id ▸ hnumber⟩ armed
  | update given changes =>
    rcases Store.Tags.mem_update_or numbered stored now given changes with
      hkept | ⟨⟨i, hi, hnumber⟩, hnew⟩
    · exact ⟨u, hkept, id, same⟩
    · have harmless : (TagChange.applyAll t changes).SameWatch t :=
        Classical.byContradiction fun hdisarmed => armed ⟨⟨i, hi, id ▸ hnumber⟩, hdisarmed⟩
      have hsame := (same.applyAll changes).trans harmless
      exact ⟨_, hnew, (Store.Tags.id_applyAll u changes).trans id,
        hsame.deviceId, hsame.condition, hsame.subject⟩

namespace Editing

namespace Event

/-- Whether somebody else's edit disarms a tag. -/
def Disarms (t : Tag) : Event → Prop
  | edited e _ => e.Disarms t
  | evaluated _ | handled _ _ => False

/-- Whether the tag under a number is taken away by whoever handles a winner. -/
def Removes (id : Datum) : Event → Prop
  | handled _ removed => ∃ t ∈ removed, t.id = id
  | edited _ _ | evaluated _ => False

end Event

/-! ### Rules that are backed -/

/-- The rules in force are those of stored tags, but for tags that are gone. -/
structure Backed (gone : Datum → Prop) (s : Site) : Prop where
  abreast : Abreast s
  stored : ∀ d, ∀ r ∈ s.rules.snapshot.rulesOf d, r.tag ∈ s.rows ∨ gone r.tag.id

namespace Backed

variable {gone : Datum → Prop}

theorem of_current {s : Site} (abreast : Abreast s) (current : s.Current .rules) : Backed gone s :=
  ⟨abreast, fun _ _ hr => .inl (current.member hr)⟩

theorem next {s : Setting} (h : Backed gone s.site) {choice : Choice}
    (inForce : (Editing.next s choice).2.inForce = true) :
    Backed (fun id => gone id ∨ (Editing.next s choice).2.Removes id)
      (Editing.next s choice).1.site := by
  have habreast := abreast_next h.abreast inForce
  cases choice with
  | evaluate m => exact ⟨habreast, fun d r hr => (h.stored d r hr).imp_right .inl⟩
  | edit e =>
    have within : (s.run (askStore e.call)).2.site.rules.published ≤
        (s.run (askStore e.call)).2.site.rules.issued :=
      (site_edited s e).1 ▸ h.abreast.within
    exact of_current habreast ((Setting.refreshed_rules _ within).current inForce)
  | handle other =>
    rcases (s.aftermath_handle other h.abreast.within).current with hsame | hcurrent
    · refine ⟨habreast, fun d r hr => ?_⟩
      rw [show (Editing.next s (.handle other)).1.site.rules.snapshot = _ from hsame] at hr
      rcases h.stored d r hr with hstored | hgone
      · by_cases hkept : r.tag ∈ (Editing.next s (.handle other)).1.site.rows
        · exact .inl hkept
        · exact .inr (.inr ⟨r.tag, List.mem_filter.mpr ⟨hstored, decide_eq_true hkept⟩, rfl⟩)
      · exact .inr (.inl hgone)
    · exact of_current habreast hcurrent

theorem after {s : Setting} (h : Backed gone s.site) {choices : List Choice}
    (inForce : ∀ e ∈ Course.events Editing.next s choices, e.inForce = true) :
    Backed (fun id => gone id ∨ ∃ e ∈ Course.events Editing.next s choices, e.Removes id)
      (Course.after Editing.next s choices).site := by
  induction choices generalizing s gone with
  | nil => exact ⟨h.abreast, fun d r hr => (h.stored d r hr).imp_right .inl⟩
  | cons choice rest ih =>
    rw [Course.events_cons, List.forall_mem_cons] at inForce
    have hrest := ih (h.next inForce.1) inForce.2
    simp only [or_assoc] at hrest
    simp only [Course.events_cons, List.exists_mem_cons_iff]
    exact hrest

end Backed

/-! ### Winners that keep watch -/

theorem mem_rulesOf_of_winner? {m : Message} {book : Book} {r : Rule}
    (h : Scene.winner? m book = some r) : ∃ d, r ∈ book.rulesOf d := by
  unfold Scene.winner? at h
  split at h
  · cases h
  · exact ⟨_, mem_of_winner h⟩

/-- A winner that waits. Unless something has happened to the tag, one that watches for the same is
stored under its number. -/
structure Watching (r : Rule) (lost : Prop) (s : Site) : Prop where
  within : s.rules.published ≤ s.rules.issued
  numbered : s.store.tags.Numbered
  stored : lost ∨ ∃ u ∈ s.rows, u.id = r.tag.id ∧ u.SameWatch r.tag

namespace Watching

variable {r : Rule} {lost : Prop}

theorem next {s : Setting} (h : Watching r lost s.site) (choice : Choice) :
    Watching r (lost ∨ (Editing.next s choice).2.Disarms r.tag ∨
      (Editing.next s choice).2.Removes r.tag.id) (Editing.next s choice).1.site := by
  cases choice with
  | evaluate m => exact ⟨h.within, h.numbered, h.stored.imp_left .inl⟩
  | handle other =>
    have haftermath := s.aftermath_handle other h.within
    refine ⟨haftermath.within h.within, haftermath.numbered h.numbered, ?_⟩
    rcases h.stored with hlost | ⟨u, hu, hid, hsame⟩
    · exact .inl (.inl hlost)
    · by_cases hkept : u ∈ (Editing.next s (.handle other)).1.site.rows
      · exact .inr ⟨u, hkept, hid, hsame⟩
      · exact .inl (.inr (.inr ⟨u, List.mem_filter.mpr ⟨hu, decide_eq_true hkept⟩, hid⟩))
  | edit e =>
    obtain ⟨hrules, hstore⟩ := site_edited s e
    have within : (s.run (askStore e.call)).2.site.rules.published ≤
        (s.run (askStore e.call)).2.site.rules.issued := hrules ▸ h.within
    have hrefreshed := Setting.refreshed_rules _ within
    have hafter : (Editing.next s (.edit e)).1.site.store =
        (s.run (askStore e.call)).2.site.store := hrefreshed.store
    refine ⟨hrefreshed.within within, ?_, ?_⟩
    · rw [hafter]
      rcases hstore with hstore | ⟨now, hstore⟩
      · exact hstore ▸ h.numbered
      · exact hstore ▸ Edit.numbered h.numbered now e
    · rw [Site.rows, hafter]
      by_cases hdisarms : e.Disarms r.tag
      · exact .inl (.inr (.inl hdisarms))
      · rcases h.stored with hlost | ⟨u, hu, hid, hsame⟩
        · exact .inl (.inl hlost)
        · rcases hstore with hstore | ⟨now, hstore⟩
          · exact .inr (hstore ▸ ⟨u, hu, hid, hsame⟩)
          · exact .inr (hstore ▸ Edit.watched h.numbered hu hid hsame now hdisarms)

theorem after {s : Setting} (h : Watching r lost s.site) (choices : List Choice) :
    Watching r (lost ∨ ∃ e ∈ Course.events Editing.next s choices,
      e.Disarms r.tag ∨ e.Removes r.tag.id) (Course.after Editing.next s choices).site := by
  induction choices generalizing s lost with
  | nil => exact ⟨h.within, h.numbered, h.stored.imp_left .inl⟩
  | cons choice rest ih =>
    have hrest := ih (h.next choice)
    rw [Course.events_cons, List.exists_mem_cons_iff, ← or_assoc]
    exact hrest

end Watching

/-- Whoever handles a winner adds nothing but an all-clear, and an alerting tag with that recovery
is stored, unless the tag that won has been disarmed by an edit since, or has been taken away at any
time by whoever handled a winner. -/
theorem added_recovers_stored_or_disarmed {s : Setting} (reachable : s.site.store.Reachable)
    (inOrder : s.site.rules.published ≤ s.site.rules.issued)
    (loaded : ∃ now, Book.ofTags s.rows now = .ok s.site.rules.snapshot)
    {first held : List Choice} {m : Message} {r : Rule} {waiting : Setting}
    (inForce : ∀ e ∈ Course.events next s first, e.inForce = true)
    (won : Scene.winner? m (Course.after next s first).site.rules.snapshot = some r)
    (waited : Course.after next s (first ++ .evaluate m :: held) = waiting) :
    ∀ t ∈ (next waiting (.handle r)).1.rows, t ∉ waiting.rows → t.isAllClear = true ∧
      ((∃ u ∈ waiting.rows, ∃ draft, u.alarm? = some draft ∧ draft.concern = t.concern) ∨
        (∃ e ∈ Course.events next (Course.after next s first) (.evaluate m :: held),
          e.Disarms r.tag) ∨
        ∃ e ∈ Course.events next s (first ++ .evaluate m :: held), e.Removes r.tag.id) := by
  have hstart : Backed (fun _ => False) s.site := by
    refine ⟨.of_loaded reachable.numbered inOrder loaded, fun d q hq => .inl ?_⟩
    obtain ⟨now, hbook⟩ := loaded
    exact ((Book.mem_rulesOf hbook).mp hq).1
  have hbacked := hstart.after inForce
  have hwaiting := Waiting.of_winner? hbacked.abreast won
  obtain ⟨d, hr⟩ := mem_rulesOf_of_winner? won
  have hwatching : Watching r (∃ e ∈ Course.events next s first, e.Removes r.tag.id)
      (Course.after next s first).site := by
    refine ⟨hwaiting.within, hbacked.abreast.numbered, ?_⟩
    rcases hbacked.stored d r hr with hstored | hnever | hremoved
    · exact .inr ⟨r.tag, hstored, rfl, rfl, rfl, rfl⟩
    · exact hnever.elim
    · exact .inl hremoved
  have hwatched := hwatching.after (.evaluate m :: held)
  rw [← Course.after_append, waited] at hwatched
  intro t ht habsent
  obtain ⟨draft, id, now, hplan, rfl⟩ :=
    (waiting.aftermath_handle r hwatched.within).added ht habsent
  obtain ⟨rfl, hthreshold, halert, -⟩ := of_plan_create hplan
  have halarm := Rule.alarm?_of_compile hwaiting.compiled hthreshold halert
  refine ⟨Tag.isAllClear_of_alarm? halarm id now, ?_⟩
  rw [Course.events_append]
  rcases hwatched.stored with
    (⟨e, he, hremoved⟩ | ⟨e, he, hdisarmed | hremoved⟩) | ⟨u, hu, -, hsame⟩
  · exact .inr (.inr ⟨e, List.mem_append_left _ he, hremoved⟩)
  · exact .inr (.inl ⟨e, he, hdisarmed⟩)
  · exact .inr (.inr ⟨e, List.mem_append_right _ he, hremoved⟩)
  · obtain ⟨own, hown, hconcern⟩ := hsame.alarm halarm
    exact .inl ⟨u, hu, own, hown, hconcern⟩

theorem added_recovers_stored_or_disarmed_warned : ∃ r t,
    (next (Setting.warned.run refreshRules).2 (.evaluate (Setting.reading "9"))).2 =
        .evaluated (some r) ∧
      t ∈ (next (Setting.warned.run refreshRules).2 (.handle r)).1.rows ∧ t.isAllClear = true ∧
      ∃ u ∈ (Setting.warned.run refreshRules).2.rows, ∃ draft, u.alarm? = some draft ∧
        draft.concern = t.concern := by
  have habsent : ∀ t ∈ (Setting.warned.run refreshRules).2.rows, t.id ≠ .int 3 := by
    decide +kernel
  have hwaited : Course.after next (Setting.warned.run refreshRules).2
      ([] ++ .evaluate (Setting.reading "9") :: []) = (Setting.warned.run refreshRules).2 := rfl
  have hadded := added_recovers_stored_or_disarmed (s := (Setting.warned.run refreshRules).2)
    Setting.reachable_warned (Int.le_refl _) ⟨⟨0, none⟩, rfl⟩ (by simp) rfl hwaited _
    (List.mem_of_getElem? (show _[2]? = some _ from rfl)) fun h => habsent _ h rfl
  obtain ⟨hclear, hstored | ⟨e, he, hdisarmed⟩ | ⟨e, he, hremoved⟩⟩ := hadded
  · refine ⟨_, _, rfl, ?_, hclear, hstored⟩
    decide +kernel
  · obtain rfl := List.mem_singleton.mp he
    cases hdisarmed
  · obtain rfl := List.mem_singleton.mp he
    cases hremoved

/-- The tag that won is deleted before it is handled. Its all-clear is added all the same, though no
tag is left that alerts. -/
theorem all_clear_added_after_deletion : ∃ r t,
    Course.events next (Setting.warned.run refreshRules).2
        [.evaluate (Setting.reading "9"), .edit (.delete (.int 2)), .handle r] =
      [.evaluated (some r), .edited (.delete (.int 2)) true, .handled r []] ∧
    t ∈ (Course.after next (Setting.warned.run refreshRules).2
      [.evaluate (Setting.reading "9"), .edit (.delete (.int 2)), .handle r]).rows ∧
    t.isAllClear = true ∧
    (Course.after next (Setting.warned.run refreshRules).2
      [.evaluate (Setting.reading "9"), .edit (.delete (.int 2))]).rows.all
        (fun u => u.alarm?.isNone) = true := by
  refine ⟨_, _, rfl, List.mem_of_getElem? (show _[1]? = some _ from rfl), rfl, ?_⟩
  decide +kernel

end Editing

end Monitor

end DeviceAlerts
