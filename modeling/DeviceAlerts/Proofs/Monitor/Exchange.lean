import DeviceAlerts.Proofs.Monitor.Aftermath
import DeviceAlerts.Proofs.Monitor.Verdict

/-! What is said in a run: every question with the answer that it got. Which store calls failed and
which alerts were sent is read off it. -/

namespace DeviceAlerts.Monitor

/-- A question with its answer. -/
structure Exchange where
  call : Call
  answer : call.Answer

namespace Exchange

/-- The store call that failed. -/
def failed? : Exchange → Option Store.Call
  | ⟨.store c, (.error _ : Except Failure c.Answer)⟩ => some c
  | _ => none

/-- The alert that was sent, whether it was delivered or not. -/
def alert? : Exchange → Option (Device × Outcome)
  | ⟨.alert device outcome, _⟩ => some (device, outcome)
  | _ => none

end Exchange

namespace Setting

variable {α β : Type}

/-- The exchanges of a run, in their order. -/
def exchanges (s : Setting) : Activity α → List Exchange
  | .done _ => []
  | .ask c next => ⟨c, (answer c s).1⟩ :: exchanges (answer c s).2 (next (answer c s).1)

/-- The store calls that fail in a run. -/
def failures (s : Setting) (activity : Activity α) : List Store.Call :=
  (s.exchanges activity).filterMap Exchange.failed?

/-- The alerts that are sent in a run. -/
def alerts (s : Setting) (activity : Activity α) : List (Device × Outcome) :=
  (s.exchanges activity).filterMap Exchange.alert?

variable (s : Setting)

theorem exchanges_bind (first : Activity α) (rest : α → Activity β) :
    s.exchanges (first >>= rest) =
      s.exchanges first ++ (s.run first).2.exchanges (rest (s.run first).1) := by
  show s.exchanges (first.bind rest) = _
  induction first generalizing s with
  | done a => rfl
  | ask c next ih =>
    simp only [Program.bind, exchanges, ih, List.cons_append]
    rfl

/-- What is read off the exchanges of a run is read off those of its parts. -/
theorem filterMap_exchanges_bind {γ : Type} (f : Exchange → Option γ) (first : Activity α)
    (rest : α → Activity β) : (s.exchanges (first >>= rest)).filterMap f =
      (s.exchanges first).filterMap f ++
        ((s.run first).2.exchanges (rest (s.run first).1)).filterMap f := by
  rw [exchanges_bind, List.filterMap_append]

theorem filterMap_exchanges_ask {γ : Type} (f : Exchange → Option γ) (c : Call)
    (next : c.Answer → Activity α) : (s.exchanges (.ask c next)).filterMap f =
      (f ⟨c, (answer c s).1⟩).toList ++
        ((answer c s).2.exchanges (next (answer c s).1)).filterMap f := by
  show List.filterMap f (_ :: (answer c s).2.exchanges _) = _
  rw [List.filterMap_cons]
  cases f ⟨c, (answer c s).1⟩ <;> rfl

theorem failures_bind (first : Activity α) (rest : α → Activity β) :
    s.failures (first >>= rest) =
      s.failures first ++ (s.run first).2.failures (rest (s.run first).1) :=
  s.filterMap_exchanges_bind _ first rest

theorem alerts_bind (first : Activity α) (rest : α → Activity β) :
    s.alerts (first >>= rest) =
      s.alerts first ++ (s.run first).2.alerts (rest (s.run first).1) :=
  s.filterMap_exchanges_bind _ first rest

theorem failures_ask (c : Call) (next : c.Answer → Activity α) :
    s.failures (.ask c next) =
      (Exchange.failed? ⟨c, (answer c s).1⟩).toList ++
        (answer c s).2.failures (next (answer c s).1) :=
  s.filterMap_exchanges_ask _ c next

theorem alerts_ask (c : Call) (next : c.Answer → Activity α) :
    s.alerts (.ask c next) =
      (Exchange.alert? ⟨c, (answer c s).1⟩).toList ++
        (answer c s).2.alerts (next (answer c s).1) :=
  s.filterMap_exchanges_ask _ c next

theorem failures_askStore (c : Store.Call) :
    s.failures (askStore c) = if (answer (.store c) s).1.isOk then [] else [c] := by
  show s.failures (.ask (.store c) .done) = _
  rw [failures_ask]
  generalize (answer (.store c) s).1 = given
  cases given <;> rfl

/-! ### Refreshes -/

theorem failures_publishRules (ticket : Int) (tags : List Tag) :
    s.failures (publishRules ticket tags) = [] := by
  unfold publishRules
  rw [failures_ask]
  cases (Compilation.ofTags tags).rules with
  | error limit => rfl
  | ok rules =>
    simp only [failures_ask]
    split <;> rfl

/-- No store call can fail in a refresh but the reading of the tags. -/
theorem failures_refreshRules : s.failures refreshRules =
    if (s.chances 1).fault.isSome then [.listTags] else [] := by
  have hissue : answer (.rules .issue) s = (s.site.rules.issued + 1, s.ticketed) := rfl
  rw [refreshRules_eq, failures_ask, failures_ask, hissue]
  cases hfault : (s.chances 1).fault with
  | some failure =>
    rw [s.ticketed.answer_store_error hfault]
    rfl
  | none =>
    rw [s.ticketed.answer_store_ok hfault]
    exact failures_publishRules _ _ _

theorem mem_failures_reloadRules {otherwise : Notice} {c : Store.Call}
    (h : c ∈ s.failures (reloadRules otherwise)) : c = .listTags := by
  change c ∈ s.failures (Part.rules.reload otherwise) at h
  rw [reload_eq, failures_bind, List.mem_append] at h
  rcases h with h | h
  · change c ∈ s.failures refreshRules at h
    rw [failures_refreshRules] at h
    split at h
    · exact List.mem_singleton.mp h
    · cases h
  · split at h <;> cases h

/-- A reload that is followed by an answer. -/
theorem mem_failures_reloaded {otherwise : Notice} {a : α} {c : Store.Call}
    (h : c ∈ s.failures (reloadRules otherwise >>= fun _ => pure a)) : c = .listTags := by
  rw [failures_bind, List.mem_append] at h
  rcases h with h | h
  · exact s.mem_failures_reloadRules h
  · cases h

/-! ### Winners -/

/-- A call for tags that fails leaves the site as it is. -/
theorem answer_store_eq {c : Store.Call} (tags : c.kind = .tags)
    (h : (answer (.store c) s).1.isOk = false) : (answer (.store c) s).2 = s.later s.site := by
  cases hfault : (s.chances 0).fault with
  | some failure => rw [s.answer_store_error hfault]
  | none =>
    rw [s.answer_store_ok hfault] at h ⊢
    cases hperform : (s.site.store.perform (s.chances 0).now c).1 with
    | ok answer =>
      rw [hperform] at h
      cases h
    | error failure => rw [Store.perform_eq_self tags hperform]

theorem mem_failures_clear {r : Rule} {c : Store.Call} (h : c ∈ s.failures (clear r)) :
    c = .listTags ∨ (s.run (clear r)).1 = .failed ∧ (s.run (clear r)).2.site = s.site := by
  rw [clear_eq, failures_bind, failures_askStore, run_askStore, List.mem_append] at h
  rw [clear_eq, run_bind, run_askStore]
  have hsame := s.answer_store_eq (c := .deleteTag r.tag.id) rfl
  generalize answer (.store (.deleteTag r.tag.id)) s = exchange at h hsame ⊢
  obtain ⟨answer, after⟩ := exchange
  rcases h with h | h
  · cases answer with
    | ok found => cases h
    | error failure =>
      rw [hsame rfl]
      exact .inr ⟨rfl, rfl⟩
  · cases answer with
    | error failure => cases h
    | ok found =>
      change c ∈ after.failures (cleared r found) at h
      unfold cleared at h
      rw [failures_bind, List.mem_append] at h
      rcases h with h | h
      · split at h <;> cases h
      · exact .inl (mem_failures_reloaded _ h)

theorem mem_failures_trip {r : Rule} {draft : TagDraft} {c : Store.Call}
    (h : c ∈ s.failures (trip r draft)) :
    c = .listTags ∨
      (s.run (trip r draft)).1 = .failed ∧ (s.run (trip r draft)).2.site = s.site := by
  unfold trip at h ⊢
  rw [failures_bind, failures_askStore, run_askStore, List.mem_append] at h
  rw [run_bind, run_askStore]
  have hsame := s.answer_store_eq (c := .createTag draft) rfl
  generalize answer (.store (.createTag draft)) s = exchange at h hsame ⊢
  obtain ⟨answer, after⟩ := exchange
  rcases h with h | h
  · cases answer with
    | ok created => cases h
    | error failure =>
      rw [hsame rfl]
      exact .inr ⟨rfl, rfl⟩
  · cases answer with
    | error failure => cases h
    | ok created => exact .inl (mem_failures_reloaded _ h)

/-- When a store call fails while a winner is handled, a reload is missed or nothing has changed. -/
theorem mem_failures_handle {r : Rule} {c : Store.Call} (h : c ∈ s.failures (handle r)) :
    c = .listTags ∨ (s.run (handle r)).1 = some .failed ∧ (s.run (handle r)).2.site = s.site := by
  unfold handle at h ⊢
  rw [failures_bind, run_readBook, List.mem_append] at h
  rw [run_bind, run_readBook]
  rcases h with h | h
  · cases h
  · cases hplan : plan r s.site.rules.snapshot with
    | ignore | settled =>
      rw [hplan] at h
      cases h
    | delete id =>
      simp only [hplan, failures_bind, List.mem_append] at h
      simp only [run_bind]
      rcases h with h | h
      · refine (mem_failures_clear _ h).imp_right ?_
        rintro ⟨hfailed, hsite⟩
        exact ⟨congrArg some hfailed, hsite⟩
      · cases h
    | create draft =>
      simp only [hplan, failures_bind, List.mem_append] at h
      simp only [run_bind]
      rcases h with h | h
      · refine (mem_failures_trip _ h).imp_right ?_
        rintro ⟨hfailed, hsite⟩
        exact ⟨congrArg some hfailed, hsite⟩
      · cases h

/-! ### Messages -/

variable (react : Rule → Activity (Option Transition)) {m : Message}

theorem failures_classifyWith_quiet (keyed : m.deviceId.asKey = .ok m.deviceId)
    (h : (scan (body m) (s.site.rules.snapshot.rulesOf m.deviceId)).2 = none) :
    s.failures (classifyWith react m) = [] := by
  unfold classifyWith
  rw [failures_bind, run_readBook, keyed]
  simp only [failures_bind, run_tell, h]
  rfl

theorem failures_classifyWith_won (keyed : m.deviceId.asKey = .ok m.deviceId) {r : Rule}
    (h : (scan (body m) (s.site.rules.snapshot.rulesOf m.deviceId)).2 = some r) :
    s.failures (classifyWith react m) =
      ((s.later s.site).later s.site).failures (response react r) := by
  unfold classifyWith response
  rw [failures_bind, run_readBook, keyed]
  simp only [failures_bind, run_tell, h]
  by_cases hthreshold : r.isThreshold = true
  · rw [if_pos hthreshold, if_pos hthreshold, failures_bind]
    exact List.append_nil _
  · rw [if_neg hthreshold, if_neg hthreshold]
    rfl

end Setting

end DeviceAlerts.Monitor
