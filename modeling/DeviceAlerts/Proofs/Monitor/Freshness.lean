import DeviceAlerts.Monitor.Classify
import DeviceAlerts.Proofs.Monitor.Aftermath
import DeviceAlerts.Proofs.Monitor.Verdict
import DeviceAlerts.Proofs.Store.Devices
import DeviceAlerts.Proofs.Tag.Typed

/-! Caches that are kept up to date. An activity may change one part of the store and leaves the
snapshot of that part behind; the reload that follows makes up for it, as long as it does not fail.
What activities do is put together from what they ask, question by question. -/

namespace DeviceAlerts

open DeviceAlerts.Monitor DeviceAlerts.Time

/-- Whether a notice tells that a refresh has failed. -/
def Notice.tellsMiss : Notice → Bool
  | transitionNotLoaded | tagChangeNotLoaded | deviceChangeNotLoaded | notLoadedAtStart _ => true
  | _ => false

namespace Monitor

/-! ### From one site to another -/

/-- From a site with one property, an activity in which no refresh fails leads to another. -/
def Leads {α : Type} (P : Site → Prop) (activity : Activity α) (Q : α → Site → Prop) : Prop :=
  ∀ s : Setting, P s.site → (∀ n ∈ s.told activity, n.tellsMiss = false) →
    Q (s.run activity).1 (s.run activity).2.site

section

variable {α β : Type} {P : Site → Prop} {Q : α → Site → Prop} {R : β → Site → Prop}

theorem leads_pure {a : α} (h : ∀ s, P s → Q a s) : Leads P (pure a) Q :=
  fun s hs _ => h s.site hs

theorem Leads.bind {first : Activity α} {rest : α → Activity β} (h : Leads P first Q)
    (later : ∀ a, Leads (Q a) (rest a) R) : Leads P (first >>= rest) R := by
  intro s hs silent
  rw [Setting.told_bind, List.forall_mem_append] at silent
  rw [Setting.run_bind]
  exact later _ _ (h s hs silent.1) silent.2

theorem leads_ask {c : Call} {Q : c.Answer → Site → Prop}
    (h : ∀ (s : Site) x, P s → Q (s.answer x c).1 (s.answer x c).2) : Leads P (ask c) Q :=
  fun s hs _ => h s.site (s.chances 0) hs

/-- What does not depend on the site may be taken out of the assumption. -/
theorem Leads.assuming {activity : Activity α} {φ : Prop} (h : φ → Leads P activity Q) :
    Leads (fun s => P s ∧ φ) activity Q :=
  fun s hs silent => h hs.2 s hs.1 silent

end

/-! ### Sites that are up to date -/

namespace Site

/-- The snapshot of one part is what is made of what is stored, whenever that was. -/
def Current (s : Site) : Part → Prop
  | .rules => (∃ rules, (Compilation.ofTags s.rows).rules = .ok rules ∧
      s.rules.snapshot.groups = Book.group rules) ∧ s.rules.snapshot.tagCount = s.rows.length
  | .devices => ∃ now,
      s.directory.snapshot.byId = (Directory.table s.store.devices.rows now).byId ∧
      s.directory.snapshot.byAddress = (Directory.table s.store.devices.rows now).byAddress

/-- Nothing is wrong but that the snapshot of one part may have been left behind. -/
structure StaleAt (p : Part) (s : Site) : Prop where
  within : ∀ q, (s.cache q).published ≤ (s.cache q).issued
  tags : s.store.tags.Sound
  current : ∀ q, q ≠ p → s.Current q

structure UpToDate (s : Site) : Prop where
  within : ∀ p, (s.cache p).published ≤ (s.cache p).issued
  tags : s.store.tags.Sound
  current : ∀ p, s.Current p

variable {s after : Site} {p : Part}

theorem UpToDate.staleAt (h : s.UpToDate) : s.StaleAt p :=
  ⟨h.within, h.tags, fun q _ => h.current q⟩

theorem upToDate_fresh : (Site.fresh .empty).UpToDate where
  within p := by cases p <;> exact Int.le_refl 0
  tags := ⟨Store.Tags.numbered_empty, nofun⟩
  current p := by
    cases p with
    | rules => exact ⟨⟨[], rfl, rfl⟩, rfl⟩
    | devices => exact ⟨⟨0, none⟩, rfl, rfl⟩

theorem current_put {snapshot : p.Snapshot} {now : Moment}
    (built : p.build (s.contents p) now = .ok snapshot) (issued published : Int) :
    (s.put p ⟨snapshot, issued, published⟩).Current p := by
  cases p with
  | rules =>
    obtain ⟨loadable, rfl⟩ := Book.ofTags_eq_ok.mp built
    exact ⟨⟨_, Compilation.rules_ofTags.mpr ⟨fun t ht => (loadable t ht).within, rfl⟩, rfl⟩, rfl⟩
  | devices =>
    have hmade : (Directory.ofDevices s.store.devices.rows now).mapError Failure.misuse =
      .ok snapshot := built
    unfold Directory.ofDevices at hmade
    cases hkeys : s.store.devices.rows.mapM Directory.checkKeys with
    | error fault =>
      rw [hkeys] at hmade
      cases hmade
    | ok keys =>
      rw [hkeys] at hmade
      cases hmade
      exact ⟨now, rfl, rfl⟩

theorem current_put_other (c : Cache p.Snapshot) {q : Part} (other : q ≠ p) (h : s.Current q) :
    (s.put p c).Current q := by
  cases p <;> cases q <;> first | exact absurd rfl other | exact h

theorem Refreshed.current {answer : Except Failure p.Snapshot} (h : s.Refreshed p answer after)
    (ok : answer.isOk = true) : after.Current p := by
  cases h with
  | loaded built => exact current_put built _ _
  | failed failure => cases ok

/-- A reload leaves the snapshot as it is or brings it up to date. -/
theorem Reloaded.current {missed : Prop} (h : s.Reloaded p missed after) :
    (after.cache p).snapshot = (s.cache p).snapshot ∨ after.Current p := by
  obtain ⟨_, refreshed, _⟩ := h
  cases refreshed with
  | loaded built => exact .inr (current_put built _ _)
  | failed failure =>
    rw [cache_put]
    exact .inl rfl

/-- A reload that has not failed makes up for what was left behind. -/
theorem StaleAt.reloaded (h : s.StaleAt p) {missed : Prop} (reloaded : s.Reloaded p missed after)
    (loaded : ¬ missed) : after.UpToDate := by
  obtain ⟨answer, refreshed, failed⟩ := reloaded
  cases refreshed with
  | failed failure => exact absurd (failed rfl) loaded
  | @loaded snapshot now built =>
    refine ⟨fun q => ?_, ?_, fun q => ?_⟩
    · by_cases hq : q = p
      · subst hq
        exact Int.le_of_eq (by rw [cache_put])
      · have := h.within q
        cases p <;> cases q <;> first | exact absurd rfl hq | exact this
    · cases p <;> exact h.tags
    · by_cases hq : q = p
      · subst hq
        exact current_put built _ _
      · exact current_put_other _ hq (h.current q hq)

/-- A snapshot is judged by what is stored of its own part. -/
theorem Current.congr {other : Site} (h : s.Current p) (contents : other.contents p = s.contents p)
    (cache : other.cache p = s.cache p) : other.Current p := by
  cases p with
  | rules =>
    have hrows : other.rows = s.rows := contents
    have hrules : other.rules = s.rules := cache
    rw [Current, hrows, hrules]
    exact h
  | devices =>
    have hrows : other.store.devices.rows = s.store.devices.rows := contents
    have hdirectory : other.directory = s.directory := cache
    rw [Current, hrows, hdirectory]
    exact h

theorem cache_withTags (s : Site) (tags : Store.Tags) (p : Part) :
    (s.withTags tags).cache p = s.cache p := by
  cases p <;> rfl

theorem UpToDate.withTags (h : s.UpToDate) {tags : Store.Tags} (sound : tags.Sound) :
    (s.withTags tags).StaleAt .rules where
  within p := by
    rw [cache_withTags]
    exact h.within p
  tags := sound
  current p other := by
    refine (h.current p).congr ?_ (cache_withTags s tags p)
    cases p with
    | rules => exact absurd rfl other
    | devices => rfl

/-- The rules of a device are those of its stored tags that compile. -/
theorem Current.rulesOf (h : s.Current .rules) (d : Datum) : s.rules.snapshot.rulesOf d =
    (s.rows.filterMap Tag.rule?).filter fun r => r.tag.deviceId == d := by
  obtain ⟨⟨rules, hrules, hgroups⟩, -⟩ := h
  obtain ⟨-, rfl⟩ := Compilation.rules_ofTags.mp hrules
  rw [← Book.rulesOf_group _ none 0, Book.rulesOf, Book.find?, hgroups]
  rfl

theorem Current.member (h : s.Current .rules) {d : Datum} {r : Rule}
    (hr : r ∈ s.rules.snapshot.rulesOf d) : r.tag ∈ s.rows := by
  rw [h.rulesOf] at hr
  obtain ⟨t, ht, hcompiled⟩ := List.mem_filterMap.mp (List.mem_filter.mp hr).1
  rwa [(Tag.compile_eq_ok.mp (Tag.rule?_eq_some.mp hcompiled)).1]

end Site

/-- Handling a winner leaves the rules in force as they are or brings them up to date. -/
theorem Aftermath.current {r : Rule} {s after : Site} {missed : Prop}
    {transition : Option Transition} (h : Aftermath r s missed transition after) :
    after.rules.snapshot = s.rules.snapshot ∨ after.Current .rules := by
  cases h with
  | still uncreated => exact .inl rfl
  | cleared planned answered reloaded => exact reloaded.current
  | tripped planned reloaded => exact reloaded.current

end Monitor

/-! ### Store calls -/

namespace Store.Call

/-- Whether the tags that a call hands over have fields of the right types. -/
def Typed : Call → Prop
  | createTag draft => draft.Typed
  | updateTag _ changes => ∀ c ∈ changes, c.Typed
  | _ => True

/-- The part whose records a call may change. -/
def part : Call → Part
  | createDevice _ | updateDevice _ _ | deleteDevice _ => .devices
  | _ => .rules

/-- Whether an answer says that a device or a tag has been changed. -/
def hasChanged : (c : Call) → Except Failure c.Answer → Bool
  | createTag _, .ok _ | createDevice _, .ok _ => true
  | updateTag _ _, .ok (tag : Option Tag) => tag.isSome
  | updateDevice _ _, .ok (device : Option Device) => device.isSome
  | deleteTag _, .ok (deleted : Bool) | deleteDevice _, .ok (deleted : Bool) => deleted
  | _, _ => false

end Store.Call

namespace Monitor

namespace Site

variable {s : Site} {c : Store.Call} {p : Part}

/-- The site after a store call at a moment. -/
def performed (s : Site) (now : Moment) (c : Store.Call) : Site :=
  { s with store := (s.store.perform now c).2 }

theorem cache_performed (s : Site) (now : Moment) (c : Store.Call) (p : Part) :
    (s.performed now c).cache p = s.cache p := by
  cases p <;> rfl

theorem contents_performed_other (now : Moment) (other : p ≠ c.part) :
    (s.performed now c).contents p = s.contents p := by
  cases p <;> cases c <;> first | rfl | exact absurd rfl other

/-- What is stored stays the same unless the answer says that it has changed. -/
theorem contents_performed_same {now : Moment}
    (same : c.hasChanged (s.store.perform now c).1 = false) (p : Part) :
    (s.performed now c).contents p = s.contents p := by
  by_cases hp : p = c.part
  case neg => exact contents_performed_other now hp
  subst hp
  cases c with
  | createTag draft => cases same
  | updateTag id changes =>
    refine congrArg Store.Tags.rows (Store.Tags.update_eq_self fun tag htag => ?_)
    rw [show (s.store.perform now (.updateTag id changes)).1 = _ from htag] at same
    cases same
  | deleteTag id =>
    refine congrArg Store.Tags.rows (Store.Tags.delete_eq_self fun hdeleted => ?_)
    rw [show (s.store.perform now (.deleteTag id)).1 = _ from hdeleted] at same
    cases same
  | createDevice draft =>
    refine Store.Devices.rows_create fun device hdevice => ?_
    rw [show (s.store.perform now (.createDevice draft)).1 = _ from hdevice] at same
    cases same
  | updateDevice id changes =>
    refine congrArg Store.Devices.rows (Store.Devices.update_eq_self fun device hdevice => ?_)
    rw [show (s.store.perform now (.updateDevice id changes)).1 = _ from hdevice] at same
    cases same
  | deleteDevice id =>
    refine congrArg Store.Devices.rows (Store.Devices.delete_eq_self fun hdeleted => ?_)
    rw [show (s.store.perform now (.deleteDevice id)).1 = _ from hdeleted] at same
    cases same
  | _ => rfl

theorem sound_performed (h : s.store.tags.Sound) (now : Moment) (typed : c.Typed) :
    (s.performed now c).store.tags.Sound := by
  cases c with
  | createTag draft => exact h.create now typed
  | updateTag id changes => exact h.update now id typed
  | deleteTag id => exact h.delete id
  | _ => exact h

/-- A store call leaves a part behind only if its answer says so. -/
theorem UpToDate.perform (h : s.UpToDate) (now : Moment) (typed : c.Typed) :
    if c.hasChanged (s.store.perform now c).1
      then (s.performed now c).StaleAt c.part
      else (s.performed now c).UpToDate := by
  have hwithin (p : Part) : ((s.performed now c).cache p).published ≤
      ((s.performed now c).cache p).issued := by
    rw [cache_performed]
    exact h.within p
  have hsound := sound_performed h.tags now typed
  split
  · exact ⟨hwithin, hsound, fun p other =>
      (h.current p).congr (contents_performed_other now other) (s.cache_performed now c p)⟩
  · next hsame =>
    exact ⟨hwithin, hsound, fun p => (h.current p).congr
      (contents_performed_same (Bool.eq_false_iff.mpr hsame) p) (s.cache_performed now c p)⟩

end Site

theorem leads_askStore {α : Type} {Q : α → Site → Prop} {c : Store.Call} (typed : c.Typed)
    {next : Except Failure c.Answer → Activity α}
    (still : ∀ answer, c.hasChanged answer = false → Leads Site.UpToDate (next answer) Q)
    (changed : ∀ answer, c.hasChanged answer = true → Leads (Site.StaleAt c.part) (next answer) Q) :
    Leads Site.UpToDate (askStore c >>= next) Q := by
  intro s hs silent
  rw [Setting.told_bind, List.forall_mem_append] at silent
  have hlater := silent.2
  rw [Setting.run_bind]
  rw [Setting.run_askStore] at hlater ⊢
  cases hfault : (s.chances 0).fault with
  | some failure =>
    rw [s.answer_store_error hfault] at hlater ⊢
    exact still (.error failure) (by cases c <;> rfl) _ hs hlater
  | none =>
    rw [s.answer_store_ok hfault] at hlater ⊢
    have hperformed := hs.perform (s.chances 0).now typed
    split at hperformed
    · next hchanged => exact changed _ hchanged _ hperformed hlater
    · next hsame => exact still _ (Bool.eq_false_iff.mpr hsame) _ hperformed hlater

/-! ### Other questions -/

/-- Whether a question that is not for the store leaves both caches alone. -/
def Call.isCalm : Call → Bool
  | rules .read | rules .generation | devices .read | devices .generation => true
  | store _ | rules _ | devices _ => false
  | now | tell _ | alert _ _ | probe _ => true

theorem leads_calm {c : Call} (calm : c.isCalm = true) :
    Leads Site.UpToDate (ask c) fun _ => Site.UpToDate := by
  refine leads_ask fun s x h => ?_
  cases c with
  | store call => cases calm
  | rules call => cases call <;> first | exact h | cases calm
  | devices call => cases call <;> first | exact h | cases calm
  | _ => exact h

/-! ### Reloads and winners -/

theorem leads_reload (p : Part) {otherwise : Notice} (miss : otherwise.tellsMiss = true) :
    Leads (Site.StaleAt p) (p.reload otherwise) fun _ => Site.UpToDate := by
  intro s hs silent
  refine hs.reloaded (s.reloaded p otherwise (hs.within p)) fun htold => ?_
  rw [silent otherwise htold] at miss
  cases miss

theorem leads_handle {r : Rule} (typed : r.tag.Typed) :
    Leads Site.UpToDate (handle r) fun _ => Site.UpToDate := by
  intro s hs silent
  have haftermath := s.aftermath_handle r (hs.within .rules)
  have hloaded : ¬ .transitionNotLoaded ∈ s.told (handle r) := fun htold => by
    cases silent _ htold
  generalize (s.run (handle r)).1 = transition, (s.run (handle r)).2.site = after at haftermath ⊢
  cases haftermath with
  | still uncreated => exact hs
  | cleared planned answered reloaded =>
    exact (hs.withTags (hs.tags.delete _)).reloaded reloaded hloaded
  | tripped planned reloaded =>
    obtain ⟨rfl, -⟩ := of_plan_create planned
    exact (hs.withTags (hs.tags.create _ typed.recovery)).reloaded reloaded hloaded

/-! ### Messages -/

theorem leads_readBook : Leads Site.UpToDate readBook fun book s =>
    s.UpToDate ∧ ∀ d, ∀ r ∈ book.rulesOf d, r.tag.Typed :=
  leads_ask fun _ _ h => ⟨h, fun _ r hr => h.tags.typed r.tag ((h.current .rules).member hr)⟩

theorem leads_classify (m : Message) :
    Leads Site.UpToDate (classify m) fun _ => Site.UpToDate := by
  unfold classify classifyWith
  refine leads_readBook.bind fun book => Leads.assuming fun typed => ?_
  cases m.deviceId.asKey with
  | error fault => exact leads_pure fun _ h => h
  | ok deviceId =>
    refine (leads_calm rfl).bind fun _ => ?_
    cases hwinner : (scan (body m) (book.rulesOf deviceId)).2 with
    | none => exact leads_pure fun _ h => h
    | some r =>
      dsimp only
      split
      · refine (leads_handle (typed deviceId r (mem_of_winner hwinner))).bind fun _ => ?_
        exact leads_pure fun _ h => h
      · exact leads_pure fun _ h => h

end Monitor

end DeviceAlerts
