import DeviceAlerts.Proofs.Monitor.Cycle
import DeviceAlerts.Proofs.Monitor.Exchange

/-! Verdicts that do not depend on what is done about the winner. The rules in force and the message
decide which rule wins, and the verdict is put together from the two; handling the winner comes in
between, and whatever becomes of it shows in the transition alone. When handling fails, nothing has
been changed by it. -/

namespace DeviceAlerts.Monitor.Setting

open DeviceAlerts.Time

variable {m : Message}

/-- A message is classified, whatever is done about winners; only the transition tells of it. -/
theorem run_classifyWith (s : Setting) (react : Rule → Activity (Option Transition))
    (keyed : m.deviceId.asKey = .ok m.deviceId) : ∃ transition,
    (s.run (classifyWith react m)).1 =
      .ok ((scan (body m) (s.site.rules.snapshot.rulesOf m.deviceId)).2.elim (.quiet m) fun r =>
        verdict m r transition) := by
  cases hwinner : (scan (body m) (s.site.rules.snapshot.rulesOf m.deviceId)).2 with
  | none =>
    rw [s.run_classifyWith_quiet react keyed hwinner]
    exact ⟨none, rfl⟩
  | some r =>
    rw [s.run_classifyWith_won react keyed hwinner]
    exact ⟨_, rfl⟩

/-- When the tags cannot be changed as the winner calls for, the verdict says so, and the site is as
it was before. -/
theorem run_classify_failed (s : Setting) (keyed : m.deviceId.asKey = .ok m.deviceId)
    {c : Store.Call} (failed : c ∈ s.failures (classify m)) (write : c.isRead = false) :
    (∃ o, (s.run (classify m)).1 = .ok o ∧ o.transition = some .failed) ∧
      (s.run (classify m)).2.site = s.site := by
  cases hwinner : (scan (body m) (s.site.rules.snapshot.rulesOf m.deviceId)).2 with
  | none =>
    rw [classify, failures_classifyWith_quiet s handle keyed hwinner] at failed
    cases failed
  | some r =>
    rw [classify, failures_classifyWith_won s handle keyed hwinner] at failed
    rw [s.run_classify_won keyed hwinner]
    change c ∈ Setting.failures _ (reaction r) at failed
    unfold reaction at failed ⊢
    split at failed
    · next hthreshold =>
      rw [if_pos hthreshold]
      rcases mem_failures_handle _ failed with rfl | ⟨htransition, hsite⟩
      · cases write
      · exact ⟨⟨_, rfl, htransition⟩, hsite⟩
    · cases failed

/-- Two runs under the same rules come to the same verdict up to the transition, whatever is done
about winners and whatever store calls fail. When a change of the tags fails, it has not been made,
the cache of the rules is as it was, and the transition is a failure. -/
theorem classify_eq_up_to_transition (first second : Setting)
    (react other : Rule → Activity (Option Transition))
    (keyed : m.deviceId.asKey = .ok m.deviceId)
    (same : first.site.rules.snapshot = second.site.rules.snapshot) :
    (∃ o transition, (first.run (classifyWith react m)).1 = .ok o ∧
        (second.run (classifyWith other m)).1 = .ok { o with transition }) ∧
      ∀ c ∈ first.failures (classify m), c.isRead = false →
        (∃ o, (first.run (classify m)).1 = .ok o ∧ o.transition = some .failed) ∧
          (first.run (classify m)).2.site = first.site := by
  refine ⟨?_, fun c failed write => first.run_classify_failed keyed failed write⟩
  obtain ⟨transition, hfirst⟩ := first.run_classifyWith react keyed
  obtain ⟨changed, hsecond⟩ := second.run_classifyWith other keyed
  rw [← same] at hsecond
  rw [hfirst, hsecond]
  cases (scan (body m) (first.site.rules.snapshot.rulesOf m.deviceId)).2 with
  | none => exact ⟨_, none, rfl, rfl⟩
  | some r => exact ⟨_, changed, rfl, rfl⟩

/-- Nothing is done about winners. -/
def unmanaged (_ : Rule) : Activity (Option Transition) := pure none

/-- The sample with its rules in force, after the store has broken down. -/
def cutOff : Setting where
  site := (warned.run refreshRules).2.site
  chances _ := { Chance.calm ⟨0, none⟩ with fault := some (.unavailable "down") }

theorem classify_eq_up_to_transition_cutOff :
    (∃ o transition, (cutOff.run (classify (reading "9"))).1 = .ok o ∧ o.notify = true ∧
        ((warned.run refreshRules).2.run (classifyWith unmanaged (reading "9"))).1 =
          .ok { o with transition }) ∧
      (cutOff.run (classify (reading "9"))).2.site = cutOff.site := by
  obtain ⟨⟨o, transition, hfirst, hsecond⟩, failed⟩ := classify_eq_up_to_transition cutOff
    (warned.run refreshRules).2 handle unmanaged (m := reading "9") rfl rfl
  have hfailed : .createTag _ ∈ cutOff.failures (classify (reading "9")) := List.mem_cons_self
  refine ⟨⟨o, transition, hfirst, ?_, hsecond⟩, (failed _ hfailed rfl).2⟩
  cases hfirst
  rfl

end DeviceAlerts.Monitor.Setting
