import DeviceAlerts.Proofs.Course
import DeviceAlerts.Proofs.Monitor.Aftermath
import DeviceAlerts.Proofs.Monitor.Manager
import DeviceAlerts.Proofs.Store.Tags

/-! Winners that wait while tags are edited. Whoever handles a winner only looks whether a rule with
its number is in force, so what matters is what has become of the number. As long as the tag has not
been updated, nothing but the tag that won is deleted, and that is an all-clear. A tag that has been
updated since is deleted as it stands, alerting or not. -/

namespace DeviceAlerts.Monitor

open DeviceAlerts.Time

/-- A change of the tags by somebody who does not handle winners. -/
inductive Edit
  | create (draft : TagDraft)
  | update (id : Datum) (changes : List TagChange)
  | delete (id : Datum)

namespace Edit

def call : Edit → Store.Call
  | create draft => .createTag draft
  | update id changes => .updateTag id changes
  | delete id => .deleteTag id

/-- Whether the tag under a number is updated. -/
def Updates (id : Datum) : Edit → Prop
  | update given _ => ∃ i, given.readInteger = .ok i ∧ id = .int i
  | create _ | delete _ => False

variable {store : Store}

theorem numbered (h : store.tags.Numbered) (now : Moment) (e : Edit) :
    (store.perform now e.call).2.tags.Numbered := by
  cases e with
  | create draft => exact h.create now draft
  | update id changes => exact h.update now id changes
  | delete id => exact h.delete id

theorem stands {t : Tag} (h : store.tags.Stands t) (now : Moment) {e : Edit}
    (other : ¬ e.Updates t.id) : (store.perform now e.call).2.tags.Stands t := by
  cases e with
  | create draft => exact h.create now draft
  | update id changes => exact h.update now changes fun i hi same => other ⟨i, hi, same⟩
  | delete id => exact h.delete id

end Edit

namespace Editing

inductive Choice
  /-- An edit with the refresh that follows it. -/
  | edit (e : Edit)
  | evaluate (m : Message)
  /-- A winner is handled that was found at any time before. -/
  | handle (r : Rule)

inductive Event
  | edited (e : Edit) (refreshed : Bool)
  | evaluated (winner : Option Rule)
  | handled (winner : Rule) (removed : List Tag)

def next (s : Setting) : Choice → Setting × Event
  | .edit e =>
    let edited := (s.run (askStore e.call)).2
    ((edited.run refreshRules).2, .edited e (edited.run refreshRules).1.isOk)
  | .evaluate m => (s, .evaluated (Scene.winner? m s.site.rules.snapshot))
  | .handle r =>
    let after := (s.run (Monitor.handle r)).2
    (after, .handled r (s.rows.filter fun t => t ∉ after.rows))

namespace Event

/-- No edit has been left without its refresh. -/
def inForce : Event → Bool
  | edited _ refreshed => refreshed
  | evaluated _ | handled _ _ => true

/-- Whether the tag under a number has been updated. -/
def Updates (id : Datum) : Event → Prop
  | edited e _ => e.Updates id
  | evaluated _ | handled _ _ => False

end Event

/-! ### Runs with edits -/

/-- An edit may fail, and it leaves the rules in force alone. -/
theorem site_edited (s : Setting) (e : Edit) :
    (s.run (askStore e.call)).2.site.rules = s.site.rules ∧
      ((s.run (askStore e.call)).2.site.store = s.site.store ∨
        ∃ now, (s.run (askStore e.call)).2.site.store = (s.site.store.perform now e.call).2) := by
  rw [Setting.run_askStore]
  cases hfault : (s.chances 0).fault with
  | some failure =>
    rw [s.answer_store_error hfault]
    exact ⟨rfl, .inl rfl⟩
  | none =>
    rw [s.answer_store_ok hfault]
    exact ⟨rfl, .inr ⟨_, rfl⟩⟩

theorem abreast_next {s : Setting} (h : Abreast s.site) {choice : Choice}
    (inForce : (next s choice).2.inForce = true) : Abreast (next s choice).1.site := by
  cases choice with
  | evaluate m => exact h
  | handle r => exact h.handle (s.aftermath_handle r h.within)
  | edit e =>
    obtain ⟨hrules, hstore⟩ := site_edited s e
    have within : (s.run (askStore e.call)).2.site.rules.published ≤
        (s.run (askStore e.call)).2.site.rules.issued := hrules ▸ h.within
    refine .of_refreshed ?_ within (Setting.refreshed_rules _ within) inForce
    rcases hstore with hstore | ⟨now, hstore⟩
    · exact hstore ▸ h.numbered
    · exact hstore ▸ Edit.numbered h.numbered now e

theorem abreast_after {s : Setting} (h : Abreast s.site) {choices : List Choice}
    (inForce : ∀ e ∈ Course.events Editing.next s choices, e.inForce = true) :
    Abreast (Course.after Editing.next s choices).site := by
  induction choices generalizing s with
  | nil => exact h
  | cons choice rest ih =>
    rw [Course.events_cons, List.forall_mem_cons] at inForce
    exact ih (abreast_next h inForce.1) inForce.2

/-! ### Winners that wait -/

/-- A winner that waits. Unless the tag under its number has been updated, it is still the one that
is stored under it, if any is. -/
structure Waiting (r : Rule) (updated : Prop) (s : Site) : Prop where
  within : s.rules.published ≤ s.rules.issued
  compiled : r.tag.compile = .ok r
  given : ∃ i, r.tag.id = .int i
  stands : updated ∨ s.store.tags.Stands r.tag

namespace Waiting

variable {r : Rule} {updated : Prop}

/-- Whoever wins on a message begins to wait. -/
theorem of_winner? {s : Site} (h : Abreast s) {m : Message}
    (hr : Scene.winner? m s.rules.snapshot = some r) : Waiting r False s := by
  unfold Scene.winner? at hr
  split at hr
  · cases hr
  · obtain ⟨compiled, stands⟩ := h.stands _ r (mem_of_winner hr)
    obtain ⟨i, _, hid⟩ := stands.given
    exact ⟨h.within, compiled, ⟨i, hid⟩, .inr stands⟩

theorem handle {s after : Site} (h : Waiting r updated s) {other : Rule} {missed : Prop}
    {transition : Option Transition} (aftermath : Aftermath other s missed transition after) :
    Waiting r updated after := by
  refine ⟨aftermath.within h.within, h.compiled, h.given, h.stands.imp_right fun stands => ?_⟩
  cases aftermath with
  | still uncreated => exact stands
  | cleared planned answered reloaded =>
    obtain ⟨_, hrefreshed, _⟩ := reloaded
    rw [hrefreshed.store]
    exact stands.delete _
  | tripped planned reloaded =>
    obtain ⟨_, hrefreshed, _⟩ := reloaded
    rw [hrefreshed.store]
    exact stands.create _ _

theorem next {s : Setting} (h : Waiting r updated s.site) (choice : Choice) :
    Waiting r (updated ∨ (Editing.next s choice).2.Updates r.tag.id)
      (Editing.next s choice).1.site := by
  cases choice with
  | evaluate m => exact ⟨h.within, h.compiled, h.given, h.stands.imp_left .inl⟩
  | handle other =>
    have hnext := h.handle (s.aftermath_handle other h.within)
    exact ⟨hnext.within, h.compiled, h.given, hnext.stands.imp_left .inl⟩
  | edit e =>
    obtain ⟨hrules, hstore⟩ := site_edited s e
    have within : (s.run (askStore e.call)).2.site.rules.published ≤
        (s.run (askStore e.call)).2.site.rules.issued := hrules ▸ h.within
    have hrefreshed := Setting.refreshed_rules _ within
    refine ⟨hrefreshed.within within, h.compiled, h.given, ?_⟩
    show (updated ∨ e.Updates r.tag.id) ∨ _
    rw [show (Editing.next s (.edit e)).1.site.store = _ from hrefreshed.store]
    by_cases hupdates : e.Updates r.tag.id
    · exact .inl (.inr hupdates)
    · refine h.stands.imp .inl fun stands => ?_
      rcases hstore with hstore | ⟨now, hstore⟩
      · exact hstore ▸ stands
      · exact hstore ▸ Edit.stands stands now hupdates

theorem after {s : Setting} (h : Waiting r updated s.site) (choices : List Choice) :
    Waiting r (updated ∨ ∃ e ∈ Course.events Editing.next s choices, e.Updates r.tag.id)
      (Course.after Editing.next s choices).site := by
  induction choices generalizing s updated with
  | nil => exact ⟨h.within, h.compiled, h.given, h.stands.imp_left .inl⟩
  | cons choice rest ih =>
    have hrest := ih (h.next choice)
    rw [Course.events_cons, List.exists_mem_cons_iff, ← or_assoc]
    exact hrest

end Waiting

end Editing

/-! ### Tags that are taken away -/

/-- Whoever handles a winner takes nothing away but what has the number of an all-clear. -/
theorem Aftermath.removed {r : Rule} {s after : Site} {missed : Prop}
    {transition : Option Transition} (h : Aftermath r s missed transition after)
    (compiled : r.tag.compile = .ok r) (given : ∃ i, r.tag.id = .int i) {t : Tag}
    (before : t ∈ s.rows) (gone : t ∉ after.rows) :
    r.tag.isAllClear = true ∧ t.id = r.tag.id := by
  cases h with
  | still uncreated => exact absurd before gone
  | tripped planned reloaded =>
    obtain ⟨_, hrefreshed, _⟩ := reloaded
    rw [Site.rows, hrefreshed.store] at gone
    exact absurd (List.mem_append_left _ before) gone
  | cleared planned answered reloaded =>
    obtain ⟨rfl, hthreshold, hrecovery⟩ := of_plan_delete planned
    obtain ⟨i, hi⟩ := given
    obtain ⟨_, hrefreshed, _⟩ := reloaded
    rw [Site.rows, hrefreshed.store, hi] at gone
    refine ⟨?_, Decidable.byContradiction fun hid => gone ?_⟩
    · rw [Tag.isAllClear, Tag.isThreshold_of_compile compiled, hthreshold, hrecovery]
      rfl
    · exact Store.Tags.mem_delete before (hi ▸ hid)

namespace Editing

/-- A winner that is handled any time after its message was evaluated takes nothing away but the tag
that won, which is an all-clear, unless the tag under its number has been updated in between. -/
theorem removed_eq_winner_or_updated {s : Setting} (reachable : s.site.store.Reachable)
    (inOrder : s.site.rules.published ≤ s.site.rules.issued)
    (loaded : ∃ now, Book.ofTags s.rows now = .ok s.site.rules.snapshot)
    {choices : List Choice} {before between later : List Event} {r : Rule} {removed : List Tag}
    (hevents : Course.events next s choices =
      before ++ .evaluated (some r) :: between ++ .handled r removed :: later)
    (inForce : ∀ e ∈ before, e.inForce = true) :
    ∀ t ∈ removed, r.tag.isAllClear = true ∧ t.id = r.tag.id ∧
      (t = r.tag ∨ ∃ e ∈ between, e.Updates r.tag.id) := by
  obtain ⟨earlier, rest, rfl, hearlier, hrest⟩ := Course.exists_of_events_eq_append next hevents
  obtain ⟨first, held, rfl, hfirst, hheld⟩ := Course.exists_of_events_eq_append next hearlier
  have habreast : Abreast (Course.after next s first).site :=
    abreast_after (.of_loaded reachable.numbered inOrder loaded) (hfirst ▸ inForce)
  cases held with
  | nil => cases hheld
  | cons choice held =>
    obtain ⟨hevaluated, hbetween⟩ := List.cons.inj hheld
    have hwaiting : Waiting r False (next (Course.after next s first) choice).1.site := by
      cases choice with
      | evaluate m => exact .of_winner? habreast (Event.evaluated.inj hevaluated)
      | edit e => cases hevaluated
      | handle other => cases hevaluated
    have hwaited := hwaiting.after held
    rw [hbetween, ← Course.after_cons next, ← Course.after_append] at hwaited
    generalize Course.after next s (first ++ choice :: held) = now at hwaited hrest
    cases rest with
    | nil => cases hrest
    | cons choice last =>
      obtain ⟨hhandled, -⟩ := List.cons.inj hrest
      cases choice with
      | edit e => cases hhandled
      | evaluate m => cases hhandled
      | handle other =>
        obtain ⟨rfl, rfl⟩ := Event.handled.inj hhandled
        intro t ht
        obtain ⟨hstored, hgone⟩ := List.mem_filter.mp ht
        obtain ⟨hclear, hid⟩ := (now.aftermath_handle other hwaited.within).removed hwaited.compiled
          hwaited.given hstored (of_decide_eq_true hgone)
        refine ⟨hclear, hid, ?_⟩
        rcases hwaited.stands with (hnever | hupdated) | hstands
        · exact hnever.elim
        · exact .inr hupdated
        · exact .inl (hstands.only t hstored hid)

/-- An all-clear for the second device of the sample, as somebody may store it. -/
def cooled : TagDraft :=
  ⟨Setting.relief.deviceId, .text "cool", Setting.relief.condition, .text "OK", .text "info"⟩

/-- The sample with its rules in force, to which an all-clear has been added. -/
def eased : Setting := (next (Setting.warned.run refreshRules).2 (.edit (.create cooled))).1

theorem removed_eq_winner_or_updated_eased : ∃ r t,
    Course.events next eased [.evaluate (Setting.reading "3"), .handle r] =
      [.evaluated (some r), .handled r [t]] ∧ t = r.tag ∧ t.isAllClear = true := by
  refine ⟨_, _, rfl, ?_⟩
  obtain ⟨hclear, -, hwinner | ⟨e, he, -⟩⟩ := removed_eq_winner_or_updated
    (Setting.reachable_warned.perform ⟨0, none⟩ (.createTag cooled)) (Int.le_refl _)
    ⟨⟨0, none⟩, rfl⟩ (show Course.events next eased [.evaluate (Setting.reading "3"), .handle _] =
      [] ++ .evaluated (some _) :: [] ++ .handled _ [_] :: [] from rfl) nofun _ List.mem_cons_self
  · exact ⟨hwinner, hwinner ▸ hclear⟩
  · cases he

/-- The all-clear that won is given another subject, so that it alerts; then it is handled as a
winner and taken away. -/
theorem alerting_tag_removed_after_update :
    let update := Edit.update (.int 3) [.subject (.text "HIGH")]
    ∃ r t, Course.events next eased [.evaluate (Setting.reading "3"), .edit update, .handle r] =
        [.evaluated (some r), .edited update true, .handled r [t]] ∧
      t ∈ (Course.after next eased [.evaluate (Setting.reading "3"), .edit update]).rows ∧
      t.isThreshold = true ∧ t.subject = .text "HIGH" ∧ t.isAllClear = false :=
  ⟨_, _, rfl, List.mem_of_getElem? (show _[2]? = some _ from rfl), rfl, rfl, by decide +kernel⟩

end Editing

end DeviceAlerts.Monitor
