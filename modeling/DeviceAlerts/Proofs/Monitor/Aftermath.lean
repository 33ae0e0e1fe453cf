import DeviceAlerts.Proofs.Monitor.Ledger
import DeviceAlerts.Proofs.Monitor.Setting

/-! What is left behind, whatever fails. A reload of a cache puts the snapshot of what is stored in
place, or tells that it did not and uses up a ticket. A winner that is handled makes at most one
change of the stored tags, as was planned from the rules in force, and a reload follows it. So a
rule in force belongs to the tag that is stored under its number, if any is. -/

namespace DeviceAlerts

open DeviceAlerts.Monitor DeviceAlerts.Time

/-! ### What is told -/

namespace Monitor

def Call.notices : Call → List Notice
  | tell notices => notices
  | _ => []

namespace Setting

variable {α β : Type}

/-- The notices of a run, in their order. -/
def told (s : Setting) : Activity α → List Notice
  | .done _ => []
  | .ask c next => c.notices ++ told (answer c s).2 (next (answer c s).1)

theorem told_ask (s : Setting) (c : Call) (next : c.Answer → Activity α) :
    s.told (.ask c next) = c.notices ++ (answer c s).2.told (next (answer c s).1) := rfl

theorem told_bind (s : Setting) (first : Activity α) (rest : α → Activity β) :
    s.told (first >>= rest) =
      s.told first ++ (s.run first).2.told (rest (s.run first).1) := by
  show s.told (first.bind rest) = _
  induction first generalizing s with
  | done a => rfl
  | ask c next ih =>
    rw [Program.bind, told_ask, told_ask, ih, List.append_assoc]
    rfl

theorem mem_told_bind {s : Setting} {first : Activity α} {rest : α → Activity β} {n : Notice}
    (h : n ∈ (s.run first).2.told (rest (s.run first).1)) : n ∈ s.told (first >>= rest) := by
  rw [told_bind]
  exact List.mem_append_right _ h

end Setting

/-! ### Refreshes that may fail -/

/-- A site with another cache of one part. -/
def Site.put (s : Site) : (p : Part) → Cache p.Snapshot → Site
  | .devices, directory => { s with directory }
  | .rules, rules => { s with rules }

/-- What a refresh of one part leads to: the snapshot of what is stored is in place, or a ticket has
been used up. -/
inductive Site.Refreshed (p : Part) (s : Site) : Except Failure p.Snapshot → Site → Prop
  | loaded {snapshot : p.Snapshot} {now : Moment}
      (built : p.build (s.contents p) now = .ok snapshot) :
      Refreshed p s (.ok snapshot)
        (s.put p ⟨snapshot, (s.cache p).issued + 1, (s.cache p).issued + 1⟩)
  | failed (failure : Failure) : Refreshed p s (.error failure) (s.put p (s.cache p).issue.2)

@[simp] theorem Site.cache_put (s : Site) (p : Part) (c : Cache p.Snapshot) :
    (s.put p c).cache p = c := by
  cases p <;> rfl

theorem Site.Refreshed.within {p : Part} {s after : Site} {answer : Except Failure p.Snapshot}
    (h : s.Refreshed p answer after) (before : (s.cache p).published ≤ (s.cache p).issued) :
    (after.cache p).published ≤ (after.cache p).issued := by
  cases h with
  | loaded built => exact Int.le_of_eq (by rw [cache_put])
  | failed failure =>
    rw [cache_put]
    exact Int.le_trans before (Int.le_add_one (Int.le_refl _))

namespace Setting

variable (s : Setting)

theorem site_run_publishRules_error (ticket : Int) {tags : List Tag} {failure : Failure}
    (h : Book.ofTags tags (s.chances 1).now = .error failure) :
    (s.run (publishRules ticket tags)).2.site = s.site := by
  unfold publishRules
  rw [run_ask]
  cases hrules : (Compilation.ofTags tags).rules with
  | error limit => rfl
  | ok rules =>
    simp only [run_ask]
    have hnow : (answer Call.now (answer (.tell (Compilation.ofTags tags).notices) s).2).1 =
        (s.chances 1).now := rfl
    rw [hnow, h]
    rfl

theorem run_refreshRules_error {failure : Failure}
    (h : (s.run refreshRules).1 = .error failure)
    (within : s.site.rules.published ≤ s.site.rules.issued) :
    (s.run refreshRules).2.site = { s.site with rules := s.site.rules.issue.2 } := by
  have hissue : answer (.rules .issue) s = (s.site.rules.issued + 1, s.ticketed) := rfl
  cases hfault : (s.chances 1).fault with
  | some failure =>
    rw [refreshRules_eq, run_ask, run_ask, hissue, s.ticketed.answer_store_error hfault]
    rfl
  | none =>
    cases hmade : Book.ofTags s.site.store.tags.rows (s.chances 3).now with
    | error failure =>
      have hsite := (s.ticketed.later s.ticketed.site).site_run_publishRules_error
        (s.site.rules.issued + 1) hmade
      rw [refreshRules_eq, run_ask, run_ask, hissue, s.ticketed.answer_store_ok hfault]
      exact hsite
    | ok book =>
      rw [(s.run_refreshRules_ok hfault hmade within).1] at h
      cases h

theorem refreshed_rules (within : s.site.rules.published ≤ s.site.rules.issued) :
    s.site.Refreshed .rules (s.run refreshRules).1 (s.run refreshRules).2.site := by
  cases h : (s.run refreshRules).1 with
  | error failure =>
    rw [s.run_refreshRules_error h within]
    exact .failed failure
  | ok book =>
    obtain ⟨⟨now, hbook⟩, hsite⟩ := s.snapshot_of_run_refreshRules h within
    rw [hsite]
    exact .loaded (p := .rules) hbook

theorem run_publishDevices_ok (ticket : Int) {found : List Device} {directory : Directory}
    (h : Part.devices.build found (s.chances 1).now = .ok directory) :
    (s.run (publishDevices ticket found)).1 =
        .ok (s.site.directory.publish ticket directory).1.1 ∧
      (s.run (publishDevices ticket found)).2.site =
        { s.site with directory := (s.site.directory.publish ticket directory).2 } := by
  unfold publishDevices
  simp only [run_ask]
  have hnow : (answer Call.now (answer (.tell (Directory.notices found)) s).2).1 =
      (s.chances 1).now := rfl
  rw [hnow, show (Directory.ofDevices found (s.chances 1).now).mapError Failure.misuse = _ from h]
  exact ⟨rfl, rfl⟩

theorem run_publishDevices_error (ticket : Int) {found : List Device} {failure : Failure}
    (h : Part.devices.build found (s.chances 1).now = .error failure) :
    (s.run (publishDevices ticket found)).1 = .error failure ∧
      (s.run (publishDevices ticket found)).2.site = s.site := by
  unfold publishDevices
  simp only [run_ask]
  have hnow : (answer Call.now (answer (.tell (Directory.notices found)) s).2).1 =
      (s.chances 1).now := rfl
  rw [hnow, show (Directory.ofDevices found (s.chances 1).now).mapError Failure.misuse = _ from h]
  exact ⟨rfl, rfl⟩

theorem refreshed_devices (within : s.site.directory.published ≤ s.site.directory.issued) :
    s.site.Refreshed .devices (s.run refreshDevices).1 (s.run refreshDevices).2.site := by
  have hissue : answer (.devices .issue) s =
      (s.site.directory.issued + 1, s.later (s.site.put .devices s.site.directory.issue.2)) := rfl
  generalize hticketed : s.later (s.site.put .devices s.site.directory.issue.2) = ticketed at hissue
  have hsite : ticketed.site = s.site.put .devices s.site.directory.issue.2 := by
    rw [← hticketed]
    rfl
  cases hfault : (ticketed.chances 0).fault with
  | some failure =>
    have hrun : s.run refreshDevices = (.error failure, ticketed.later ticketed.site) := by
      rw [refreshDevices_eq, run_ask, run_ask, hissue, ticketed.answer_store_error hfault]
      rfl
    rw [hrun]
    show s.site.Refreshed .devices (.error failure) ticketed.site
    rw [hsite]
    exact .failed failure
  | none =>
    have hrun : s.run refreshDevices = (ticketed.later ticketed.site).run
        (publishDevices (s.site.directory.issued + 1) s.site.store.devices.rows) := by
      rw [refreshDevices_eq, run_ask, run_ask, hissue, ticketed.answer_store_ok hfault, ← hticketed]
      rfl
    rw [hrun]
    cases hmade : Part.devices.build s.site.store.devices.rows
        ((ticketed.later ticketed.site).chances 1).now with
    | error failure =>
      obtain ⟨hanswer, hafter⟩ := (ticketed.later ticketed.site).run_publishDevices_error
        (s.site.directory.issued + 1) hmade
      rw [hanswer, hafter]
      show s.site.Refreshed .devices (.error failure) ticketed.site
      rw [hsite]
      exact .failed failure
    | ok directory =>
      obtain ⟨hanswer, hafter⟩ := (ticketed.later ticketed.site).run_publishDevices_ok
        (s.site.directory.issued + 1) hmade
      rw [hanswer, hafter]
      show s.site.Refreshed .devices (.ok (ticketed.site.directory.publish _ directory).1.1)
        { ticketed.site with directory := (ticketed.site.directory.publish _ directory).2 }
      rw [hsite]
      have hpublish := Cache.publish_issue within directory
      show s.site.Refreshed .devices (.ok (s.site.directory.issue.2.publish _ directory).1.1)
        { s.site with directory := (s.site.directory.issue.2.publish _ directory).2 }
      rw [hpublish]
      exact .loaded hmade

theorem refreshed (p : Part) (within : (s.site.cache p).published ≤ (s.site.cache p).issued) :
    s.site.Refreshed p (s.run p.refresh).1 (s.run p.refresh).2.site := by
  cases p with
  | devices => exact s.refreshed_devices within
  | rules => exact s.refreshed_rules within

end Setting

/-! ### Reloads -/

theorem Site.Refreshed.store {p : Part} {s after : Site} {answer : Except Failure p.Snapshot}
    (h : s.Refreshed p answer after) : after.store = s.store := by
  cases h <;> cases p <;> rfl

/-- What a reload leads to; it has been missed when its refresh has failed. -/
def Site.Reloaded (p : Part) (s : Site) (missed : Prop) (after : Site) : Prop :=
  ∃ answer, s.Refreshed p answer after ∧ (answer.isOk = false → missed)

theorem Site.Reloaded.within {p : Part} {s after : Site} {missed : Prop}
    (h : s.Reloaded p missed after) (before : (s.cache p).published ≤ (s.cache p).issued) :
    (after.cache p).published ≤ (after.cache p).issued :=
  let ⟨_, refreshed, _⟩ := h
  refreshed.within before

theorem Site.Reloaded.mono {p : Part} {s after : Site} {missed other : Prop}
    (h : s.Reloaded p missed after) (weaker : missed → other) : s.Reloaded p other after :=
  let ⟨answer, refreshed, failed⟩ := h
  ⟨answer, refreshed, fun hfailed => weaker (failed hfailed)⟩

end Monitor

def Part.reload : Part → Notice → Activity Unit
  | devices => reloadDevices
  | rules => reloadRules

namespace Monitor

theorem reload_eq (p : Part) (otherwise : Notice) : p.reload otherwise =
    p.refresh >>= fun
      | .error _ => tellOne otherwise
      | .ok _ => pure () := by
  cases p with
  | devices =>
    refine congrArg (refreshDevices >>= ·) (funext fun answer => ?_)
    cases answer <;> rfl
  | rules =>
    refine congrArg (refreshRules >>= ·) (funext fun answer => ?_)
    cases answer <;> rfl

theorem peruses_reload (p : Part) (otherwise : Notice) : Peruses (p.reload otherwise) := by
  rw [reload_eq]
  refine p.peruses_refresh.bind fun answer => ?_
  cases answer with
  | error failure => exact peruses_tellOne otherwise
  | ok snapshot => exact peruses_pure ()

namespace Setting

variable (s : Setting)

theorem reloaded (p : Part) (otherwise : Notice)
    (within : (s.site.cache p).published ≤ (s.site.cache p).issued) :
    s.site.Reloaded p (otherwise ∈ s.told (p.reload otherwise))
      (s.run (p.reload otherwise)).2.site := by
  rw [reload_eq, run_bind, told_bind]
  have hrefreshed := s.refreshed p within
  generalize s.run p.refresh = refreshed at hrefreshed ⊢
  obtain ⟨answer, after⟩ := refreshed
  cases answer with
  | ok snapshot => exact ⟨_, hrefreshed, nofun⟩
  | error failure => exact ⟨_, hrefreshed, fun _ => List.mem_append_right _ List.mem_cons_self⟩

/-- A reload that is followed by an answer. -/
theorem reloaded_pure {α : Type} (otherwise : Notice) (a : α)
    (within : s.site.rules.published ≤ s.site.rules.issued) :
    (s.run (reloadRules otherwise >>= fun _ => pure a)).1 = a ∧
      s.site.Reloaded .rules (otherwise ∈ s.told (reloadRules otherwise >>= fun _ => pure a))
        (s.run (reloadRules otherwise >>= fun _ => pure a)).2.site := by
  rw [run_bind, told_bind]
  exact ⟨rfl, (s.reloaded .rules otherwise within).mono (List.mem_append_left _)⟩

end Setting

/-! ### Handling a winner -/

theorem of_plan_delete {r : Rule} {book : Book} {id : Datum} (h : plan r book = .delete id) :
    id = r.tag.id ∧ r.isThreshold = true ∧ r.tag.isRecovery = true := by
  unfold plan at h
  grind

theorem of_plan_create {r : Rule} {book : Book} {draft : TagDraft}
    (h : plan r book = .create draft) :
    draft = r.recovery ∧ r.isThreshold = true ∧ r.tag.isRecovery = false ∧
      (book.rulesOf r.tag.deviceId).any (fun other => other.tag.agreesWith r.recovery) = false := by
  unfold plan at h
  grind

theorem of_plan_settled {r : Rule} {book : Book} {transition : Transition}
    (h : plan r book = .settled transition) : transition ≠ .created := by
  unfold plan at h
  grind

def Site.withTags (s : Site) (tags : Store.Tags) : Site :=
  { s with store := { s.store with tags } }

/-- What handling a winner leads to. The transition is missed when the reload after it is. -/
inductive Aftermath (r : Rule) (s : Site) (missed : Prop) : Option Transition → Site → Prop
  | still {transition : Option Transition} (uncreated : transition ≠ some .created) :
      Aftermath r s missed transition s
  | cleared {id : Datum} {found : Bool} {after : Site}
      (planned : plan r s.rules.snapshot = .delete id)
      (answered : (s.store.tags.delete id).1 = .ok found)
      (reloaded : Site.Reloaded .rules (s.withTags (s.store.tags.delete id).2) missed after) :
      Aftermath r s missed (some (if found then .deleted else .alreadyCleared)) after
  | tripped {draft : TagDraft} {now : Moment} {after : Site}
      (planned : plan r s.rules.snapshot = .create draft)
      (reloaded :
        Site.Reloaded .rules (s.withTags (s.store.tags.create now draft).2) missed after) :
      Aftermath r s missed (some .created) after

theorem Aftermath.mono {r : Rule} {s after : Site} {missed other : Prop}
    {transition : Option Transition} (h : Aftermath r s missed transition after)
    (weaker : missed → other) : Aftermath r s other transition after := by
  cases h with
  | still uncreated => exact .still uncreated
  | cleared planned answered reloaded => exact .cleared planned answered (reloaded.mono weaker)
  | tripped planned reloaded => exact .tripped planned (reloaded.mono weaker)

theorem Aftermath.within {r : Rule} {s after : Site} {missed : Prop}
    {transition : Option Transition} (h : Aftermath r s missed transition after)
    (before : s.rules.published ≤ s.rules.issued) :
    after.rules.published ≤ after.rules.issued := by
  cases h with
  | still uncreated => exact before
  | cleared planned answered reloaded => exact reloaded.within before
  | tripped planned reloaded => exact reloaded.within before

namespace Setting

variable (s : Setting)

theorem run_askStore (c : Store.Call) : s.run (askStore c) = answer (.store c) s := rfl

/-- What is done once the store has answered whether the tag was there. -/
def cleared (r : Rule) (found : Bool) : Activity Transition :=
  (if found then pure () else tellOne (.recoveryMissing r.tag.id r.tag.deviceId)) >>= fun _ =>
    reloadRules .transitionNotLoaded >>= fun _ =>
      pure (if found then .deleted else .alreadyCleared)

theorem clear_eq (r : Rule) : clear r = askStore (.deleteTag r.tag.id) >>= fun
    | .error _ => tellOne (.recoveryNotDeleted r.tag.id r.tag.deviceId) >>= fun _ => pure .failed
    | .ok (found : Bool) => cleared r found := by
  refine congrArg (askStore (.deleteTag r.tag.id) >>= ·) (funext fun answer => ?_)
  cases answer with
  | error failure => rfl
  | ok found => cases found <;> rfl

theorem run_cleared (r : Rule) (found : Bool)
    (within : s.site.rules.published ≤ s.site.rules.issued) :
    (s.run (cleared r found)).1 = (if found then .deleted else .alreadyCleared) ∧
      s.site.Reloaded .rules (.transitionNotLoaded ∈ s.told (cleared r found))
        (s.run (cleared r found)).2.site := by
  unfold cleared
  rw [run_bind, told_bind]
  cases found with
  | true =>
    obtain ⟨hanswer, hreloaded⟩ := s.reloaded_pure .transitionNotLoaded Transition.deleted within
    exact ⟨hanswer, hreloaded⟩
  | false =>
    obtain ⟨hanswer, hreloaded⟩ :=
      (s.later s.site).reloaded_pure .transitionNotLoaded Transition.alreadyCleared within
    exact ⟨hanswer, hreloaded.mono (List.mem_append_right _)⟩

/-- A deletion that fails, on whatever account, leaves the site alone. -/
theorem answer_deleteTag_cases (id : Datum) :
    (∃ failure, answer (.store (.deleteTag id)) s = (.error failure, s.later s.site)) ∨
      ∃ found, (s.site.store.tags.delete id).1 = .ok found ∧
        answer (.store (.deleteTag id)) s =
          (.ok found, s.later (s.site.withTags (s.site.store.tags.delete id).2)) := by
  cases hfault : (s.chances 0).fault with
  | some failure => exact .inl ⟨failure, s.answer_store_error hfault _⟩
  | none =>
    have hanswer : answer (.store (.deleteTag id)) s = ((s.site.store.tags.delete id).1,
        s.later (s.site.withTags (s.site.store.tags.delete id).2)) := s.answer_store_ok hfault _
    rw [hanswer]
    cases hdelete : (s.site.store.tags.delete id).1 with
    | error failure =>
      rw [Store.Tags.delete_eq_self (by rw [hdelete]; nofun)]
      exact .inl ⟨failure, rfl⟩
    | ok found => exact .inr ⟨found, rfl, rfl⟩

theorem answer_createTag_cases (draft : TagDraft) :
    (∃ failure, answer (.store (.createTag draft)) s = (.error failure, s.later s.site)) ∨
      answer (.store (.createTag draft)) s =
        (.ok (s.site.store.tags.create (s.chances 0).now draft).1,
          s.later (s.site.withTags (s.site.store.tags.create (s.chances 0).now draft).2)) := by
  cases hfault : (s.chances 0).fault with
  | some failure => exact .inl ⟨failure, s.answer_store_error hfault _⟩
  | none => exact .inr (s.answer_store_ok hfault _)

theorem aftermath_clear {r : Rule} {id : Datum}
    (planned : plan r s.site.rules.snapshot = .delete id)
    (within : s.site.rules.published ≤ s.site.rules.issued) :
    Aftermath r s.site (.transitionNotLoaded ∈ s.told (clear r)) (some (s.run (clear r)).1)
      (s.run (clear r)).2.site := by
  obtain ⟨rfl, -, -⟩ := of_plan_delete planned
  rw [clear_eq, run_bind, told_bind, run_askStore]
  rcases s.answer_deleteTag_cases r.tag.id with ⟨failure, hanswer⟩ | ⟨found, hdelete, hanswer⟩
  · rw [hanswer]
    exact .still nofun
  · rw [hanswer]
    obtain ⟨hcleared, hreloaded⟩ := (s.later
      (s.site.withTags (s.site.store.tags.delete r.tag.id).2)).run_cleared r found within
    refine hcleared.symm ▸ ?_
    exact .cleared planned hdelete (hreloaded.mono (List.mem_append_right _))

theorem aftermath_trip {r : Rule} {draft : TagDraft}
    (planned : plan r s.site.rules.snapshot = .create draft)
    (within : s.site.rules.published ≤ s.site.rules.issued) :
    Aftermath r s.site (.transitionNotLoaded ∈ s.told (trip r draft))
      (some (s.run (trip r draft)).1) (s.run (trip r draft)).2.site := by
  unfold trip
  rw [run_bind, told_bind, run_askStore]
  rcases s.answer_createTag_cases draft with ⟨failure, hanswer⟩ | hanswer
  · rw [hanswer]
    exact .still nofun
  · rw [hanswer]
    obtain ⟨htripped, hreloaded⟩ := (s.later (s.site.withTags
      (s.site.store.tags.create (s.chances 0).now draft).2)).reloaded_pure
        .transitionNotLoaded Transition.created within
    refine htripped.symm ▸ ?_
    exact .tripped planned (hreloaded.mono (List.mem_append_right _))

/-- Whatever fails, handling a winner leads to what was planned for it or leaves the site alone. -/
theorem aftermath_handle (r : Rule) (within : s.site.rules.published ≤ s.site.rules.issued) :
    Aftermath r s.site (.transitionNotLoaded ∈ s.told (handle r)) (s.run (handle r)).1
      (s.run (handle r)).2.site := by
  unfold handle
  rw [run_bind, told_bind, run_readBook]
  cases hplan : plan r s.site.rules.snapshot with
  | ignore => exact .still nofun
  | settled transition => exact .still fun h => of_plan_settled hplan (Option.some.inj h)
  | delete id =>
    simp only [run_bind, told_bind]
    exact (aftermath_clear (s.later s.site) hplan within).mono
      fun h => List.mem_append_right _ (List.mem_append_left _ h)
  | create draft =>
    simp only [run_bind, told_bind]
    exact (aftermath_trip (s.later s.site) hplan within).mono
      fun h => List.mem_append_right _ (List.mem_append_left _ h)

end Setting

/-! ### Rules in force -/

/-- Rules in force are those of tags that are stored, unless they are gone. -/
structure Abreast (s : Site) : Prop where
  within : s.rules.published ≤ s.rules.issued
  numbered : s.store.tags.Numbered
  stands : ∀ d, ∀ r ∈ s.rules.snapshot.rulesOf d, r.tag.compile = .ok r ∧ s.store.tags.Stands r.tag

namespace Abreast

variable {s after : Site}

theorem of_loaded (numbered : s.store.tags.Numbered)
    (within : s.rules.published ≤ s.rules.issued)
    (loaded : ∃ now, Book.ofTags s.rows now = .ok s.rules.snapshot) : Abreast s := by
  refine ⟨within, numbered, fun d r hr => ?_⟩
  obtain ⟨now, hbook⟩ := loaded
  obtain ⟨member, compiled, _⟩ := (Book.mem_rulesOf hbook).mp hr
  exact ⟨compiled, numbered.stands member⟩

theorem refreshed (h : Abreast s) {answer : Except Failure Part.rules.Snapshot}
    (refreshed : s.Refreshed .rules answer after) : Abreast after := by
  have within := refreshed.within h.within
  cases refreshed with
  | loaded built => exact of_loaded h.numbered within ⟨_, built⟩
  | failed failure => exact ⟨within, h.numbered, h.stands⟩

/-- Whatever has become of the tags, a refresh that succeeds makes up for it. -/
theorem of_refreshed (numbered : s.store.tags.Numbered)
    (within : s.rules.published ≤ s.rules.issued) {answer : Except Failure Part.rules.Snapshot}
    (refreshed : s.Refreshed .rules answer after) (ok : answer.isOk = true) : Abreast after := by
  have hwithin := refreshed.within within
  cases refreshed with
  | loaded built => exact of_loaded numbered hwithin ⟨_, built⟩
  | failed failure => cases ok

theorem create (h : Abreast s) (now : Moment) (draft : TagDraft) :
    Abreast (s.withTags (s.store.tags.create now draft).2) :=
  ⟨h.within, h.numbered.create now draft,
    fun d r hr => (h.stands d r hr).imp_right (·.create now draft)⟩

theorem delete (h : Abreast s) (id : Datum) : Abreast (s.withTags (s.store.tags.delete id).2) :=
  ⟨h.within, h.numbered.delete id, fun d r hr => (h.stands d r hr).imp_right (·.delete id)⟩

theorem handle (h : Abreast s) {r : Rule} {missed : Prop} {transition : Option Transition}
    (aftermath : Aftermath r s missed transition after) : Abreast after := by
  cases aftermath with
  | still uncreated => exact h
  | cleared planned answered reloaded =>
    obtain ⟨_, hrefreshed, _⟩ := reloaded
    exact (h.delete _).refreshed hrefreshed
  | tripped planned reloaded =>
    obtain ⟨_, hrefreshed, _⟩ := reloaded
    exact (h.create _ _).refreshed hrefreshed

end Abreast

end Monitor

end DeviceAlerts
