import DeviceAlerts.Proofs.Monitor.Precedence
import DeviceAlerts.Proofs.Monitor.Sweeping
import DeviceAlerts.Proofs.Monitor.Transition
import DeviceAlerts.Proofs.Store.Patched
import DeviceAlerts.Proofs.Web.Service

/-! Changes of stored records by requests. Whoever changes a record twice could have changed it
once: what the second request says has the last word, what neither says stays, and nothing but the
record is touched. The reloads that follow the changes only read. -/

namespace DeviceAlerts

open DeviceAlerts.Form DeviceAlerts.Monitor DeviceAlerts.Text DeviceAlerts.Time

namespace Monitor

/-- No store call fails, as in memory. -/
def Setting.Unfailing (s : Setting) : Prop := ∀ n, (s.chances n).fault = none

theorem Setting.Unfailing.run {α : Type} {s : Setting} (h : s.Unfailing) (activity : Activity α) :
    (s.run activity).2.Unfailing := by
  obtain ⟨k, hk⟩ := s.exists_run_chances activity
  intro n
  rw [hk]
  exact h (n + k)

end Monitor

namespace Web

section

variable {s : Setting} {i : Int}

theorem run_onStore_ok {c : Store.Call} {next : c.Answer → Handler} {answer : c.Answer}
    {store : Store} (unfailing : s.Unfailing)
    (h : s.site.store.perform (s.chances 0).now c = (.ok answer, store)) :
    s.run (onStore c next) = (s.later { s.site with store }).run (next answer) := by
  rw [onStore, Setting.run_bind, Setting.run_askStore, s.answer_store_ok (unfailing 0), h]

/-! ### Tags -/

theorem peruses_answerTag (status : Nat) (t : Option Tag) : Peruses (answerTag status t) := by
  cases t with
  | none => exact peruses_pure _
  | some t => exact peruses_ask nofun peruses_pure

theorem run_getTag (unfailing : s.Unfailing) (reachable : s.site.store.Reachable) {t : Tag}
    (stored : t ∈ s.site.store.tags.rows) (number : t.id = .int i) :
    (s.run (getTag i)).1 = respondWith 200 (viewTag s.site.rules.snapshot t) ∧
      (s.run (getTag i)).2.site = s.site := by
  have hfound := Store.Tags.find?_stored reachable.ordered.tags stored number
  have hget : s.site.store.perform (s.chances 0).now (.getTag (.int i)) =
      (.ok (some t), s.site.store) :=
    congrArg (fun found => (Except.ok found, s.site.store)) hfound
  rw [getTag, run_onStore_ok unfailing hget]
  exact ⟨rfl, rfl⟩

/-- A tag that is patched is stored again as what becomes of it, and nothing else is changed. -/
theorem store_run_patchTag (unfailing : s.Unfailing) (reachable : s.site.store.Reachable) {t : Tag}
    (stored : t ∈ s.site.store.tags.rows) (number : t.id = .int i) {p : TagPatch}
    (admitted : p.Admitted) : (s.run (patchTag i p)).2.site.store =
      { s.site.store with tags := s.site.store.tags.replace (p.outcome (s.chances 0).now t) } := by
  have sequence := reachable.ordered.tags
  rw [patchTag, if_neg (not_any_blank.mpr admitted)]
  cases given : p.changes.isEmpty with
  | true =>
    have same : p.outcome (s.chances 0).now t = t := if_pos given
    rw [if_pos rfl, (run_getTag unfailing reachable stored number).2, same,
      Store.Tags.replace_self sequence stored]
  | false =>
    have hupdate := Store.Tags.update_patch sequence stored number given (s.chances 0).now
    have hperform : s.site.store.perform (s.chances 0).now (.updateTag (.int i) p.changes) =
        (.ok (some (p.outcome (s.chances 0).now t)), { s.site.store with
          tags := s.site.store.tags.replace (p.outcome (s.chances 0).now t) }) :=
      congrArg (fun made => (made.1, { s.site.store with tags := made.2 })) hupdate
    rw [if_neg Bool.false_ne_true, run_onStore_ok unfailing hperform]
    exact (((peruses_reload .rules .tagChangeNotLoaded).bind fun _ =>
      peruses_answerTag 200 (some (p.outcome (s.chances 0).now t))).run _).2

/-! ### Devices -/

/-- The request has been carried out and its result is shown. -/
def Accepted (answer : Except Failure Response) : Prop :=
  ∃ response, answer = .ok response ∧ response.status = 200

theorem run_getDevice (unfailing : s.Unfailing) (reachable : s.site.store.Reachable) {d : Device}
    (stored : d ∈ s.site.store.devices.rows) (number : d.id = .int i) :
    (s.run (getDevice i)).1 = respondWith 200 (deviceView d) ∧
      (s.run (getDevice i)).2.site = s.site := by
  have hfound := Store.Devices.find?_stored reachable.ordered.devices stored number
  have hget : s.site.store.perform (s.chances 0).now (.getDevice (.int i)) =
      (.ok (some d), s.site.store) :=
    congrArg (fun found => (Except.ok found, s.site.store)) hfound
  rw [getDevice, run_onStore_ok unfailing hget]
  exact ⟨rfl, rfl⟩

theorem run_patchDevice (unfailing : s.Unfailing) (reachable : s.site.store.Reachable) {d : Device}
    (stored : d ∈ s.site.store.devices.rows) (number : d.id = .int i) {p : DevicePatch}
    (admitted : p.Admitted s.site.store.devices d) :
    (s.run (patchDevice i p)).1 = respondWith 200 (deviceView (p.outcome (s.chances 0).now d)) ∧
      (s.run (patchDevice i p)).2.site.store = { s.site.store with
        devices := s.site.store.devices.replace (p.outcome (s.chances 0).now d) } := by
  have apart := reachable.apart
  rw [patchDevice, if_neg (not_any_blank.mpr admitted.name),
    if_neg (not_any_blank.mpr admitted.address)]
  cases given : p.changes.isEmpty with
  | true =>
    have same : p.outcome (s.chances 0).now d = d := if_pos given
    obtain ⟨hanswer, hsite⟩ := run_getDevice unfailing reachable stored number
    rw [if_pos rfl, hanswer, hsite, same, Store.Devices.replace_self apart.sequence stored]
    exact ⟨rfl, rfl⟩
  | false =>
    have hupdate := admitted.update apart stored number given (s.chances 0).now
    have hperform : s.site.store.perform (s.chances 0).now (.updateDevice (.int i) p.changes) =
        (.ok (some (p.outcome (s.chances 0).now d)), { s.site.store with
          devices := s.site.store.devices.replace (p.outcome (s.chances 0).now d) }) :=
      congrArg (fun made => (made.1, { s.site.store with devices := made.2 })) hupdate
    rw [if_neg Bool.false_ne_true, Setting.run_bind, Setting.run_askStore,
      s.answer_store_ok (unfailing 0), hperform]
    constructor
    · show (Setting.run _ (reloadDevices .deviceChangeNotLoaded >>= fun _ =>
        pure (answerDevice 200 (some (p.outcome (s.chances 0).now d))))).1 = _
      rw [Setting.run_bind]
      rfl
    · exact (((peruses_reload .devices .deviceChangeNotLoaded).bind fun _ =>
        peruses_pure (answerDevice 200 (some (p.outcome (s.chances 0).now d)))).run _).2

theorem not_accepted_response {response : Response} (h : response.status ≠ 200) :
    ¬ Accepted (.ok response) := by
  rintro ⟨_, ⟨⟩, hstatus⟩
  exact h hstatus

theorem not_accepted_refuseDevice (failure : Failure) : ¬ Accepted (refuseDevice failure) := by
  unfold refuseDevice
  split
  · exact not_accepted_response (show 409 ≠ 200 by decide)
  · rintro ⟨_, ⟨⟩, -⟩

/-- Only a patch that is admitted is accepted. -/
theorem admitted_of_accepted (unfailing : s.Unfailing) (reachable : s.site.store.Reachable)
    {d : Device} (stored : d ∈ s.site.store.devices.rows) (number : d.id = .int i)
    {p : DevicePatch} (accepted : Accepted (s.run (patchDevice i p)).1) :
    p.Admitted s.site.store.devices d := by
  unfold patchDevice at accepted
  split at accepted
  · exact absurd accepted (not_accepted_response (show 400 ≠ 200 by decide))
  next name =>
  split at accepted
  · exact absurd accepted (not_accepted_response (show 400 ≠ 200 by decide))
  next address =>
  refine ⟨not_any_blank.mp name, not_any_blank.mp address, fun a ha => ?_⟩
  have performed : (s.site.store.perform (s.chances 0).now
    (.updateDevice (.int i) p.changes)).1 =
      (s.site.store.devices.update (s.chances 0).now (.int i) p.changes).1 := rfl
  rw [DevicePatch.isEmpty_changes ha, if_neg Bool.false_ne_true, Setting.run_bind,
    Setting.run_askStore, s.answer_store_ok (unfailing 0), performed] at accepted
  -- an address of another device is refused, and a device that is stored is found
  cases hupdate : (s.site.store.devices.update (s.chances 0).now (.int i) p.changes).1 with
  | error failure =>
    rw [hupdate] at accepted
    exact absurd accepted (not_accepted_refuseDevice failure)
  | ok found =>
    rw [hupdate] at accepted
    cases found with
    | none => exact absurd accepted (not_accepted_response (show 404 ≠ 200 by decide))
    | some new => exact DevicePatch.free_of_update reachable.apart stored number hupdate a ha

theorem accepted_respondWith {view : Checked Datum} :
    Accepted (respondWith 200 view) ↔ ∃ shown, view = .sound shown := by
  unfold Accepted respondWith
  cases view with
  | sound shown => exact iff_of_true ⟨_, rfl, rfl⟩ ⟨shown, rfl⟩
  | flawed flaws =>
    refine iff_of_false ?_ nofun
    rintro ⟨_, ⟨⟩, -⟩

/-- The device that can be shown after two patches can be shown after both at once. -/
theorem accepted_outcome {p q : DevicePatch} {first later : Moment} {d : Device} (now : Moment)
    (h : Accepted (respondWith 200 (deviceView (q.outcome later (p.outcome first d))))) :
    Accepted (respondWith 200 (deviceView ((p.overriddenBy q).outcome now d))) := by
  cases given : (p.overriddenBy q).changes.isEmpty with
  | true =>
    have nothing := DevicePatch.isEmpty_changes_iff.mp given
    obtain ⟨rfl, rfl⟩ := DevicePatch.overriddenBy_eq_nothing nothing
    exact h
  | false =>
    have updated : ((p.overriddenBy q).outcome now d).updatedAt = .moment now := by
      rw [DevicePatch.outcome, given]
      rfl
    rw [p.outcome_outcome q first later now d, updated]
    exact accepted_respondWith.mpr (deviceView_updated (accepted_respondWith.mp h) now)

/-! ### Two requests in a row -/

theorem patchTag_patchTag (unfailing : s.Unfailing) (reachable : s.site.store.Reachable) {t : Tag}
    (stored : t ∈ s.site.store.tags.rows) (number : t.id = .int i) {p q : TagPatch}
    (hp : p.Admitted) (hq : q.Admitted) : ∃ u v,
      ((s.run (patchTag i p)).2.run (patchTag i q)).2.site.store =
        { s.site.store with tags := s.site.store.tags.replace u } ∧
      (s.run (patchTag i (p.overriddenBy q))).2.site.store =
        { s.site.store with tags := s.site.store.tags.replace v } ∧
      v = { u with updatedAt := v.updatedAt } ∧ p.Spares q t v := by
  have first := store_run_patchTag unfailing reachable stored number hp
  -- the tag as the second request finds it
  have stored' : p.outcome (s.chances 0).now t ∈ (s.run (patchTag i p)).2.site.store.tags.rows :=
    first ▸ Store.mem_place stored (p.id_outcome _ t)
  have number' := (p.id_outcome (s.chances 0).now t).trans number
  have second := store_run_patchTag (unfailing.run (patchTag i p))
    (Setting.reachable_run reachable (patchTag i p)) stored' number' hq
  rw [first, Store.Tags.replace_replace (q.id_outcome _ _).symm] at second
  have atOnce := store_run_patchTag unfailing reachable stored number (hp.overriddenBy hq)
  exact ⟨_, _, second, atOnce, p.outcome_outcome q _ _ _ t, p.spares_outcome q _ t⟩

theorem patchDevice_patchDevice (unfailing : s.Unfailing) (reachable : s.site.store.Reachable)
    {d : Device} (stored : d ∈ s.site.store.devices.rows) (number : d.id = .int i)
    {p q : DevicePatch} (accepted : Accepted (s.run (patchDevice i p)).1)
    (accepted' : Accepted ((s.run (patchDevice i p)).2.run (patchDevice i q)).1) :
    Accepted (s.run (patchDevice i (p.overriddenBy q))).1 ∧ ∃ u v,
      ((s.run (patchDevice i p)).2.run (patchDevice i q)).2.site.store =
        { s.site.store with devices := s.site.store.devices.replace u } ∧
      (s.run (patchDevice i (p.overriddenBy q))).2.site.store =
        { s.site.store with devices := s.site.store.devices.replace v } ∧
      v = { u with updatedAt := v.updatedAt } ∧ p.Spares q d v := by
  have hp := admitted_of_accepted unfailing reachable stored number accepted
  obtain ⟨-, first⟩ := run_patchDevice unfailing reachable stored number hp
  -- the device as the second request finds it
  have unfailing' := unfailing.run (patchDevice i p)
  have reachable' := Setting.reachable_run reachable (patchDevice i p)
  have stored' : p.outcome (s.chances 0).now d ∈
      (s.run (patchDevice i p)).2.site.store.devices.rows :=
    first ▸ Store.mem_place stored (p.id_outcome _ d)
  have number' := (p.id_outcome (s.chances 0).now d).trans number
  have hq := admitted_of_accepted unfailing' reachable' stored' number' accepted'
  obtain ⟨answer, second⟩ := run_patchDevice unfailing' reachable' stored' number' hq
  rw [first] at hq
  rw [first, Store.Devices.replace_replace (q.id_outcome _ _).symm] at second
  rw [answer] at accepted'
  obtain ⟨shown, atOnce⟩ := run_patchDevice unfailing reachable stored number (hp.overriddenBy hq)
  rw [shown]
  exact ⟨accepted_outcome _ accepted', _, _, second, atOnce, p.outcome_outcome q _ _ _ d,
    p.spares_outcome q _ d⟩

/-- Two patches of a stored tag that are both admitted leave the same record, up to the time of its
last update, as one in which the second overrides the first. What neither gives is as it was, like
the number and the time of creation, and so is all else in the store. The same is true of a device
when both patches are accepted; then they are accepted at once. A patch that gives nothing shows the
record and changes nothing. -/
theorem patches_compose (reachable : s.site.store.Reachable) (unfailing : s.Unfailing) (i : Int) :
    (∀ t ∈ s.site.store.tags.rows, t.id = .int i →
      (∀ p q : TagPatch, p.Admitted → q.Admitted → ∃ u v,
        ((s.run (patchTag i p)).2.run (patchTag i q)).2.site.store =
          { s.site.store with tags := s.site.store.tags.replace u } ∧
        (s.run (patchTag i (p.overriddenBy q))).2.site.store =
          { s.site.store with tags := s.site.store.tags.replace v } ∧
        v = { u with updatedAt := v.updatedAt } ∧ p.Spares q t v) ∧
      (s.run (patchTag i .nothing)).1 = respondWith 200 (viewTag s.site.rules.snapshot t) ∧
      (s.run (patchTag i .nothing)).2.site = s.site) ∧
    ∀ d ∈ s.site.store.devices.rows, d.id = .int i →
      (∀ p q : DevicePatch, Accepted (s.run (patchDevice i p)).1 →
        Accepted ((s.run (patchDevice i p)).2.run (patchDevice i q)).1 →
        Accepted (s.run (patchDevice i (p.overriddenBy q))).1 ∧ ∃ u v,
          ((s.run (patchDevice i p)).2.run (patchDevice i q)).2.site.store =
            { s.site.store with devices := s.site.store.devices.replace u } ∧
          (s.run (patchDevice i (p.overriddenBy q))).2.site.store =
            { s.site.store with devices := s.site.store.devices.replace v } ∧
          v = { u with updatedAt := v.updatedAt } ∧ p.Spares q d v) ∧
      (s.run (patchDevice i .nothing)).1 = respondWith 200 (deviceView d) ∧
      (s.run (patchDevice i .nothing)).2.site = s.site := by
  constructor
  · intro t stored number
    exact ⟨fun p q hp hq => patchTag_patchTag unfailing reachable stored number hp hq,
      run_getTag unfailing reachable stored number⟩
  · intro d stored number
    exact ⟨fun p q accepted accepted' =>
      patchDevice_patchDevice unfailing reachable stored number accepted accepted',
      run_getDevice unfailing reachable stored number⟩

end

/-! A tag is given a new name twice, the fan a new address and then a new name. -/

def heat : TagDraft :=
  ⟨.int 1, .text "heat", ⟨.text ".", .text ">", .text "5", .int 0⟩, .text "HIGH", .text "warning"⟩

def workshop : Setting where
  site := .fresh (Store.pumpAndFan.perform ⟨2, some 0⟩ (.createTag heat)).2
  chances n := .calm ⟨n + 10, some 0⟩

def hotter : TagPatch := { TagPatch.nothing with name := some " hot ", value := some "7" }

def colder : TagPatch := { TagPatch.nothing with name := some "cold", severity := some .critical }

def moved : DevicePatch := { DevicePatch.nothing with address := some " 10.0.0.9 " }

def renamed : DevicePatch := { DevicePatch.nothing with name := some "vent" }

theorem patches_compose_workshop :
    let twice := (workshop.run (patchTag 1 hotter)).2.run (patchTag 1 colder)
    let atOnce := workshop.run (patchTag 1 (hotter.overriddenBy colder))
    (∃ u v : Tag,
      twice.2.site.store.tags = workshop.site.store.tags.replace u ∧
      atOnce.2.site.store.tags = workshop.site.store.tags.replace v ∧
      v = { u with updatedAt := v.updatedAt } ∧ v.subject = .text "HIGH") ∧
    atOnce.2.site.store.tags.rows.map (fun t => (t.name, t.condition.value, t.severity)) =
      [(.text "cold", .text "7", .text "critical")] ∧
    (workshop.run (patchTag 1 .nothing)).2.site = workshop.site ∧
    Accepted (workshop.run (patchDevice 2 (moved.overriddenBy renamed))).1 ∧
    (workshop.run (patchDevice 2 .nothing)).2.site = workshop.site := by
  intro twice atOnce
  have reachable : workshop.site.store.Reachable :=
    .perform (.perform (.perform .empty _ _) _ _) _ _
  have unfailing : workshop.Unfailing := fun _ => rfl
  have stored : heat.stored 1 ⟨2, some 0⟩ ∈ workshop.site.store.tags.rows := by decide +kernel
  have hfan : Store.fan ∈ workshop.site.store.devices.rows := by decide +kernel
  obtain ⟨tags, -⟩ := patches_compose reachable unfailing 1
  obtain ⟨-, devices⟩ := patches_compose reachable unfailing 2
  obtain ⟨composed, -, untouched⟩ := tags _ stored rfl
  obtain ⟨accepted, -, unchanged⟩ := devices _ hfan rfl
  obtain ⟨u, v, first, second, same, spared⟩ := composed hotter colder
    (by rintro _ ⟨⟩; decide +kernel) (by rintro _ ⟨⟩; decide +kernel)
  refine ⟨⟨u, v, congrArg Store.tags first, congrArg Store.tags second, same,
    spared.subject rfl rfl⟩, by decide +kernel, untouched, ?_, unchanged⟩
  exact (accepted moved renamed ⟨_, rfl, rfl⟩ ⟨_, rfl, rfl⟩).1

end Web

end DeviceAlerts
