import DeviceAlerts.Proofs.Monitor.Refresh

/-! Runs at a site where nobody else is at work. Every question takes the next chance of an endless
row of them. -/

namespace DeviceAlerts

/-- The ticket that was issued last publishes. -/
theorem Cache.publish_issue {σ : Type} {c : Cache σ} (within : c.published ≤ c.issued)
    (snapshot : σ) : c.issue.2.publish (c.issued + 1) snapshot =
      ((snapshot, true), ⟨snapshot, c.issued + 1, c.issued + 1⟩) := by
  have hlate : ¬ c.issued + 1 < c.published := by omega
  simp only [issue, publish, hlate, if_false]

namespace Monitor

open DeviceAlerts.Time

structure Setting where
  site : Site
  chances : Nat → Chance

namespace Setting

def later (s : Setting) (site : Site) : Setting := ⟨site, fun n => s.chances (n + 1)⟩

def answer (c : Call) (s : Setting) : c.Answer × Setting :=
  ((s.site.answer (s.chances 0) c).1, s.later (s.site.answer (s.chances 0) c).2)

/-- Runs an activity to its end. -/
def run {α : Type} (s : Setting) (activity : Activity α) : α × Setting :=
  Program.run (I := monitor) answer activity s

variable {α β : Type} (s : Setting)

theorem run_ask (c : Call) (next : c.Answer → Activity α) :
    s.run (.ask c next) = (s.answer c).2.run (next (s.answer c).1) := rfl

theorem run_bind (first : Activity α) (rest : α → Activity β) :
    s.run (first >>= rest) = (s.run first).2.run (rest (s.run first).1) :=
  Program.run_bind (I := monitor) answer first rest s

theorem run_readBook : s.run readBook = (s.site.rules.snapshot, s.later s.site) := rfl

theorem run_tell (notices : List Notice) : s.run (tell notices) = ((), s.later s.site) := rfl

theorem answer_store_ok (h : (s.chances 0).fault = none) (c : Store.Call) :
    answer (.store c) s =
      ((s.site.store.perform (s.chances 0).now c).1,
        s.later { s.site with store := (s.site.store.perform (s.chances 0).now c).2 }) := by
  simp only [answer, Site.answer, h]

theorem answer_store_error {failure : Failure} (h : (s.chances 0).fault = some failure)
    (c : Store.Call) : answer (.store c) s = (.error failure, s.later s.site) := by
  simp only [answer, Site.answer, h]

/-! ### Refreshing the rules -/

theorem run_publishRules_ok (ticket : Int) {tags : List Tag} {book : Book}
    (h : Book.ofTags tags (s.chances 1).now = .ok book) :
    (s.run (publishRules ticket tags)).1 = .ok (s.site.rules.publish ticket book).1.1 ∧
      (s.run (publishRules ticket tags)).2.site =
        { s.site with rules := (s.site.rules.publish ticket book).2 } := by
  unfold publishRules
  rw [run_ask]
  cases hrules : (Compilation.ofTags tags).rules with
  | error limit => simp [Book.ofTags, hrules] at h
  | ok rules =>
    simp only [run_ask]
    have hnow : (answer Call.now (answer (.tell (Compilation.ofTags tags).notices) s).2).1 =
        (s.chances 1).now := rfl
    rw [hnow, h]
    exact ⟨rfl, rfl⟩

theorem run_publishRules_error (ticket : Int) {tags : List Tag} {failure : Failure}
    (h : Book.ofTags tags (s.chances 1).now = .error failure) :
    (s.run (publishRules ticket tags)).1 = .error failure := by
  unfold publishRules
  rw [run_ask]
  cases hrules : (Compilation.ofTags tags).rules with
  | error limit =>
    simp only [Book.ofTags, hrules] at h
    exact h
  | ok rules =>
    simp only [run_ask]
    have hnow : (answer Call.now (answer (.tell (Compilation.ofTags tags).notices) s).2).1 =
        (s.chances 1).now := rfl
    rw [hnow, h]
    rfl

/-- The setting of a refresh after it has taken its ticket. -/
def ticketed : Setting := s.later { s.site with rules := s.site.rules.issue.2 }

theorem run_refreshRules_ok {book : Book} (hfault : (s.chances 1).fault = none)
    (hbook : Book.ofTags s.site.store.tags.rows (s.chances 3).now = .ok book)
    (within : s.site.rules.published ≤ s.site.rules.issued) :
    (s.run refreshRules).1 = .ok book ∧ (s.run refreshRules).2.site =
      { s.site with rules := ⟨book, s.site.rules.issued + 1, s.site.rules.issued + 1⟩ } := by
  have hissue : answer (.rules .issue) s = (s.site.rules.issued + 1, s.ticketed) := rfl
  have hpublish := Cache.publish_issue within book
  obtain ⟨hanswer, hsite⟩ := (s.ticketed.later s.ticketed.site).run_publishRules_ok
    (s.site.rules.issued + 1) hbook
  rw [refreshRules_eq, run_ask, run_ask, hissue, s.ticketed.answer_store_ok hfault]
  refine ⟨hanswer.trans ?_, hsite.trans ?_⟩
  · exact congrArg (fun published => Except.ok published.1.1) hpublish
  · exact congrArg (fun published => { s.site with rules := published.2 }) hpublish

theorem of_run_refreshRules {book : Book} (h : (s.run refreshRules).1 = .ok book)
    (within : s.site.rules.published ≤ s.site.rules.issued) :
    (s.chances 1).fault = none ∧
      Book.ofTags s.site.store.tags.rows (s.chances 3).now = .ok book := by
  have hissue : answer (.rules .issue) s = (s.site.rules.issued + 1, s.ticketed) := rfl
  cases hfault : (s.chances 1).fault with
  | some failure =>
    rw [refreshRules_eq, run_ask, run_ask, hissue, s.ticketed.answer_store_error hfault] at h
    cases h
  | none =>
    cases hmade : Book.ofTags s.site.store.tags.rows (s.chances 3).now with
    | error failure =>
      have herror := (s.ticketed.later s.ticketed.site).run_publishRules_error
        (s.site.rules.issued + 1) hmade
      rw [refreshRules_eq, run_ask, run_ask, hissue, s.ticketed.answer_store_ok hfault] at h
      cases herror.symm.trans h
    | ok made =>
      have hok := (s.run_refreshRules_ok hfault hmade within).1
      rw [hok] at h
      exact ⟨rfl, h⟩

/-- A refresh that succeeds puts the rules of the stored tags in place. -/
theorem snapshot_of_run_refreshRules {book : Book} (h : (s.run refreshRules).1 = .ok book)
    (within : s.site.rules.published ≤ s.site.rules.issued) :
    (∃ now, Book.ofTags s.site.store.tags.rows now = .ok book) ∧
      (s.run refreshRules).2.site =
        { s.site with rules := ⟨book, s.site.rules.issued + 1, s.site.rules.issued + 1⟩ } := by
  obtain ⟨hfault, hbook⟩ := s.of_run_refreshRules h within
  exact ⟨⟨_, hbook⟩, (s.run_refreshRules_ok hfault hbook within).2⟩

end Setting

end Monitor

end DeviceAlerts
