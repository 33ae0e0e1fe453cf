import DeviceAlerts.Proofs.Monitor.Transition
import DeviceAlerts.Proofs.Monitor.Uprightness

/-! Refreshes that are missed. Two runs of one activity are compared, of which one cannot read what
its refreshes need. As a refresh only reads, both runs leave the same in the store. The run that
misses its refreshes leaves the snapshots and the tickets under which they stand as they were; where
the other one has put a new snapshot in place, it is that of what is stored. -/

namespace DeviceAlerts

open DeviceAlerts.Monitor DeviceAlerts.Time

/-- Whether a call is what a refresh reads. -/
def Store.Call.isListing : Store.Call → Bool
  | listDevices | listTags => true
  | _ => false

/-- Whether two snapshots hold the same, whenever they were made. -/
def Part.Alike : (p : Part) → p.Snapshot → p.Snapshot → Prop
  | devices, (a : Directory), (b : Directory) => a.byId = b.byId ∧ a.byAddress = b.byAddress
  | rules, (a : Book), (b : Book) => a.groups = b.groups ∧ a.tagCount = b.tagCount

namespace Monitor

/-! ### Calls on which the store fails -/

/-- The call that is put to the store. -/
def Call.toStore? : Call → Option Store.Call
  | store call => some call
  | _ => none

namespace Setting

variable {α β : Type} (s : Setting)

/-- The store calls of a run, and whether the store failed on them. -/
def faults (s : Setting) : Activity α → List (Store.Call × Bool)
  | .done _ => []
  | .ask c next =>
    (c.toStore?.map fun call => (call, (s.chances 0).fault.isSome)).toList ++
      faults (answer c s).2 (next (answer c s).1)

theorem faults_bind (first : Activity α) (rest : α → Activity β) :
    s.faults (first >>= rest) =
      s.faults first ++ (s.run first).2.faults (rest (s.run first).1) := by
  show s.faults (first.bind rest) = _
  induction first generalizing s with
  | done a => rfl
  | ask c next ih =>
    simp only [Program.bind, faults, ih, List.append_assoc]
    rfl

/-- In a run the store fails on certain calls and on no others. -/
def FailsOn (which : Store.Call → Bool) (activity : Activity α) : Prop :=
  ∀ x ∈ s.faults activity, x.2 = which x.1

variable {which : Store.Call → Bool}

theorem failsOn_bind {first : Activity α} {rest : α → Activity β} :
    s.FailsOn which (first >>= rest) ↔
      s.FailsOn which first ∧ (s.run first).2.FailsOn which (rest (s.run first).1) := by
  rw [FailsOn, faults_bind, List.forall_mem_append]
  rfl

theorem failsOn_askStore {c : Store.Call} :
    s.FailsOn which (askStore c) ↔ (s.chances 0).fault.isSome = which c :=
  List.forall_mem_singleton

variable {s}

/-- A run goes on with the answer of a store call on which the store does not fail. -/
theorem run_answered {c : Store.Call} {next : Except Failure c.Answer → Activity α}
    (h : s.FailsOn which (askStore c >>= next)) (spared : which c = false) :
    let later := s.later (s.site.performed (s.chances 0).now c)
    let answer := (s.site.store.perform (s.chances 0).now c).1
    s.run (askStore c >>= next) = later.run (next answer) ∧ later.FailsOn which (next answer) := by
  intro later answer
  obtain ⟨first, rest⟩ := s.failsOn_bind.mp h
  have calm : (s.chances 0).fault = none := by
    have := s.failsOn_askStore.mp first
    rw [spared] at this
    exact Option.isNone_iff_eq_none.mp (Option.isSome_eq_false_iff.mp this)
  rw [run_askStore, s.answer_store_ok calm] at rest
  rw [run_bind, run_askStore, s.answer_store_ok calm]
  exact ⟨rfl, rest⟩

/-- Whoever takes a ticket and cannot read goes on with the failure. -/
theorem run_unread {c : Call} {call : Store.Call} (ticket : c.toStore? = none)
    (unread : which call = true) {next : c.Answer → Except Failure call.Answer → Activity α}
    (h : s.FailsOn which (.ask c fun b => .ask (.store call) (next b))) :
    ∃ failure, ∃ later : Setting, s.run (.ask c fun b => .ask (.store call) (next b)) =
      later.run (next (answer c s).1 (.error failure)) := by
  have hread : (call, (s.chances 1).fault.isSome) ∈
      s.faults (.ask c fun b => .ask (.store call) (next b)) := by
    rw [faults, ticket]
    exact List.mem_cons_self
  obtain ⟨failure, hfault⟩ := Option.isSome_iff_exists.mp ((h _ hread).trans unread)
  refine ⟨failure, (answer c s).2.later (answer c s).2.site, ?_⟩
  rw [run_ask, run_ask, (answer c s).2.answer_store_error hfault]

theorem run_refresh_missed {p : Part} (h : s.FailsOn Store.Call.isListing p.refresh) :
    ∃ failure, (s.run p.refresh).1 = .error failure := by
  cases p with
  | devices =>
    change s.FailsOn _ refreshDevices at h
    show ∃ failure, (s.run refreshDevices).1 = _
    rw [refreshDevices_eq] at h ⊢
    obtain ⟨failure, later, hrun⟩ := run_unread rfl rfl h
    exact ⟨failure, congrArg Prod.fst hrun⟩
  | rules =>
    change s.FailsOn _ refreshRules at h
    show ∃ failure, (s.run refreshRules).1 = _
    rw [refreshRules_eq] at h ⊢
    obtain ⟨failure, later, hrun⟩ := run_unread rfl rfl h
    exact ⟨failure, congrArg Prod.fst hrun⟩

end Setting

/-! ### Snapshots that stay and snapshots that are new -/

namespace Site

/-- The snapshots are the same and stand under the same tickets. -/
def Kept (before after : Site) : Prop :=
  ∀ p, (after.cache p).snapshot = (before.cache p).snapshot ∧
    (after.cache p).published = (before.cache p).published

/-- A snapshot that stands under another ticket is that of what is stored. -/
def Caught (before after : Site) : Prop :=
  ∀ p, (after.cache p).published = (before.cache p).published ∨ after.Current p

/-- The snapshots of one part hold the same at both sites. -/
def Agree (p : Part) (s other : Site) : Prop :=
  p.Alike (s.cache p).snapshot (other.cache p).snapshot

variable {before s after : Site}

theorem kept_self (s : Site) : s.Kept s := fun _ => ⟨rfl, rfl⟩

theorem caught_self (s : Site) : s.Caught s := fun _ => .inl rfl

theorem Kept.congr (h : s.Kept after) (same : ∀ p, s.cache p = before.cache p) :
    before.Kept after := by
  intro p
  rw [← same]
  exact h p

theorem Caught.congr (h : s.Caught after) (same : ∀ p, s.cache p = before.cache p) :
    before.Caught after := by
  intro p
  rw [← same]
  exact h p

theorem cache_put_other {p q : Part} (s : Site) (c : Cache p.Snapshot) (other : q ≠ p) :
    (s.put p c).cache q = s.cache q := by
  cases p <;> cases q <;> first | exact absurd rfl other | rfl

theorem Refreshed.kept {p : Part} {failure : Failure}
    (h : s.Refreshed p (.error failure) after) : s.Kept after := by
  cases h
  intro q
  by_cases hq : q = p
  · subst hq
    rw [cache_put]
    exact ⟨rfl, rfl⟩
  · rw [s.cache_put_other _ hq]
    exact ⟨rfl, rfl⟩

theorem Refreshed.caught {p : Part} {answer : Except Failure p.Snapshot}
    (h : s.Refreshed p answer after) : s.Caught after := by
  cases h with
  | failed failure => exact fun q => .inl ((Refreshed.failed failure).kept q).2
  | loaded built =>
    intro q
    by_cases hq : q = p
    · subst hq
      exact .inr (current_put built _ _)
    · rw [s.cache_put_other _ hq]
      exact .inl rfl

/-- Snapshots that are up to date with the same store hold the same. -/
theorem Current.agree {p : Part} (h : s.Current p) (h' : after.Current p)
    (same : after.store = s.store) : s.Agree p after := by
  cases p with
  | devices =>
    obtain ⟨_, byId, byAddress⟩ := h
    obtain ⟨_, byId', byAddress'⟩ := h'
    rw [same] at byId' byAddress'
    exact ⟨byId.trans byId'.symm, byAddress.trans byAddress'.symm⟩
  | rules =>
    have rows : after.rows = s.rows := congrArg (fun store => store.tags.rows) same
    obtain ⟨⟨rules, hrules, hgroups⟩, hcount⟩ := h
    obtain ⟨⟨rules', hrules', hgroups'⟩, hcount'⟩ := h'
    rw [rows] at hrules' hcount'
    cases hrules.symm.trans hrules'
    exact ⟨hgroups.trans hgroups'.symm, hcount.trans hcount'.symm⟩

end Site

/-! ### Reloads -/

section

variable {s : Setting} {p : Part}

theorem Setting.site_run_reload (s : Setting) (p : Part) (otherwise : Notice) :
    (s.run (p.reload otherwise)).2.site = (s.run p.refresh).2.site := by
  rw [reload_eq, run_bind]
  cases (s.run p.refresh).1 <;> rfl

theorem caught_reload (inOrder : s.site.InOrder) (p : Part) (otherwise : Notice) :
    s.site.Caught (s.run (p.reload otherwise)).2.site := by
  rw [s.site_run_reload]
  exact (s.refreshed p (inOrder p)).caught

theorem kept_reload (inOrder : s.site.InOrder) {otherwise : Notice}
    (missed : s.FailsOn Store.Call.isListing (p.reload otherwise)) :
    s.site.Kept (s.run (p.reload otherwise)).2.site := by
  rw [reload_eq, s.failsOn_bind] at missed
  obtain ⟨failure, hrun⟩ := Setting.run_refresh_missed missed.1
  have hrefreshed := s.refreshed p (inOrder p)
  rw [hrun] at hrefreshed
  rw [s.site_run_reload]
  exact hrefreshed.kept

/-- A refresh that succeeds brings its part up to date. -/
theorem current_of_run_refresh (inOrder : s.site.InOrder) (ok : (s.run p.refresh).1.isOk = true) :
    (s.run p.refresh).2.site.Current p :=
  (s.refreshed p (inOrder p)).current ok

end

/-! ### Two runs -/

section

variable {α β : Type} {like : α → α → Prop} {like' : β → β → Prop}

/-- Both activities leave the site as it is and come to results that are alike, wherever they are
run. -/
def Settle (like : α → α → Prop) (first second : Activity α) : Prop :=
  ∀ s t : Setting, like (s.run first).1 (t.run second).1 ∧ (s.run first).2.site = s.site ∧
    (t.run second).2.site = t.site

theorem settle_pure {a b : α} (h : like a b) : Settle like (pure a) (pure b) :=
  fun _ _ => ⟨h, rfl, rfl⟩

/-- What two runs from one site have come to, of which the second has missed its refreshes. -/
structure Twins (like : α → α → Prop) (before : Site) (good bad : α × Setting) : Prop where
  results : like good.1 bad.1
  store : bad.2.site.store = good.2.site.store
  caught : before.Caught good.2.site
  kept : before.Kept bad.2.site

/-- Comes to the same whether its refreshes are missed or no store call fails. The clock is read
once at most. -/
def Parallel (like : α → α → Prop) (activity : Activity α) : Prop :=
  ∀ good bad : Setting, bad.site = good.site → good.site.InOrder →
    (bad.chances 0).now = (good.chances 0).now →
    good.FailsOn (fun _ => false) activity → bad.FailsOn Store.Call.isListing activity →
    Twins like good.site (good.run activity) (bad.run activity)

theorem Settle.twins {first second : Activity α} (h : Settle like first second) {before : Site}
    {good bad : Setting} (store : bad.site.store = good.site.store)
    (caught : before.Caught good.site) (kept : before.Kept bad.site) :
    Twins like before (good.run first) (bad.run second) := by
  obtain ⟨results, hgood, hbad⟩ := h good bad
  exact ⟨results, by rw [hgood, hbad, store], by rwa [hgood], by rwa [hbad]⟩

theorem Settle.parallel {activity : Activity α} (h : Settle like activity activity) :
    Parallel like activity := by
  intro good bad same _ _ _ _
  exact h.twins (congrArg Site.store same) good.site.caught_self (same ▸ bad.site.kept_self)

theorem Parallel.bind {first : Activity α} {rest : α → Activity β} (h : Parallel like first)
    (later : ∀ a b, like a b → Settle like' (rest a) (rest b)) :
    Parallel like' (first >>= rest) := by
  intro good bad same inOrder clock intact missed
  have twins := h good bad same inOrder clock (good.failsOn_bind.mp intact).1
    (bad.failsOn_bind.mp missed).1
  rw [Setting.run_bind, Setting.run_bind]
  exact (later _ _ twins.results).twins twins.store twins.caught twins.kept

/-- A reload from one site, made in one run and missed in the other. -/
theorem Settle.twins_reload {first second : Activity α} (h : Settle like first second)
    {before : Site} {good bad : Setting} (same : bad.site = good.site)
    (caches : ∀ p, good.site.cache p = before.cache p) (inOrder : good.site.InOrder) {p : Part}
    {otherwise : Notice} (missed : bad.FailsOn Store.Call.isListing (p.reload otherwise)) :
    Twins like before (good.run (p.reload otherwise >>= fun _ => first))
      (bad.run (p.reload otherwise >>= fun _ => second)) := by
  rw [Setting.run_bind, Setting.run_bind]
  refine h.twins ?_ ((caught_reload inOrder p otherwise).congr caches) ?_
  · rw [((peruses_reload p otherwise).run good).2, ((peruses_reload p otherwise).run bad).2, same]
  · exact (kept_reload (same ▸ inOrder) missed).congr (same ▸ caches)

/-- A change comes to the same whether the reload that follows it is missed or not. -/
theorem parallel_change {c : Store.Call} (unlisted : c.isListing = false) (otherwise : Notice)
    {next : Except Failure c.Answer → Activity α} (rest : c.Answer → Activity α)
    (failed : ∀ failure, Settle like (next (.error failure)) (next (.error failure)))
    (reloads : ∀ answer, next (.ok answer) = if c.hasChanged (.ok answer)
      then c.part.reload otherwise >>= fun _ => rest answer else rest answer)
    (h : ∀ answer, Settle like (rest answer) (rest answer)) :
    Parallel like (askStore c >>= next) := by
  intro good bad same inOrder clock intact missed
  obtain ⟨hgood, -⟩ := Setting.run_answered intact rfl
  obtain ⟨hbad, missed⟩ := Setting.run_answered missed unlisted
  rw [clock, same] at hbad missed
  rw [hgood, hbad]
  -- both runs go on from the site at which the call has been performed
  have caches := good.site.cache_performed (good.chances 0).now c
  generalize (good.site.store.perform (good.chances 0).now c).1 = answer at missed ⊢
  generalize good.site.performed (good.chances 0).now c = performed at missed caches ⊢
  have caught := (Site.caught_self performed).congr caches
  have kept := (Site.kept_self performed).congr caches
  cases answer with
  | error failure => exact (failed failure).twins rfl caught kept
  | ok answer =>
    rw [reloads] at missed ⊢
    split
    · next changed =>
      rw [if_pos changed] at missed
      have ordered : (good.later performed).site.InOrder := fun p => by
        show (performed.cache p).published ≤ (performed.cache p).issued
        rw [caches]
        exact inOrder p
      have same : (bad.later performed).site = (good.later performed).site := rfl
      exact (h answer).twins_reload same caches ordered
        ((bad.later performed).failsOn_bind.mp missed).1
    · exact (h answer).twins rfl caught kept

end

end Monitor

end DeviceAlerts
