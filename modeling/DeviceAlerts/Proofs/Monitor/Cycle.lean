import DeviceAlerts.Proofs.Course
import DeviceAlerts.Proofs.Monitor.Ledger
import DeviceAlerts.Proofs.Monitor.Verdict

/-! Hysteresis over messages that come one after the other, while nobody else is at work and no
store call fails. The rules in force are those of the stored tags before every message, since every
change of the tags is followed by a refresh that succeeds: the recovery of a rule that is in force
can always be loaded. -/

namespace DeviceAlerts.Monitor

open DeviceAlerts.Time

/-! ### Turns -/

/-- A message that is classified: the tags that are stored before and what comes of it. -/
structure Turn where
  rows : List Tag
  answer : Except Failure Outcome

namespace Turn

/-- The stored tag that the outcome names, and what was done about it. -/
def reaction? (turn : Turn) : Option Reaction :=
  (turn.answer.toOption.filter (·.notify)).bind fun o =>
    (turn.rows.find? fun t => t.id = o.tagId).map fun t => ⟨t, o.transition⟩

/-- Whether a message was won by the alerting tag of an all-clear or by the all-clear itself. -/
def sign (c : Concern) (turn : Turn) : Option Bool := turn.reaction?.bind (·.sign c)

/-- The messages that were won by an all-clear and those that are reported to create it. -/
def swing (c : Concern) (turn : Turn) : Option Bool := turn.reaction?.bind (·.swing c)

theorem reaction?_verdict {rows : List Tag}
    (distinct : ∀ {a b : Tag}, a ∈ rows → b ∈ rows → a.id = b.id → a = b) {r : Rule}
    (member : r.tag ∈ rows) (m : Message) (transition : Option Transition) :
    reaction? ⟨rows, .ok (verdict m r transition)⟩ = some ⟨r.tag, transition⟩ := by
  show (rows.find? fun t => t.id = r.tag.id).map _ = _
  cases hfind : rows.find? fun t => t.id = r.tag.id with
  | none => exact absurd (decide_eq_true rfl) (List.find?_eq_none.mp hfind r.tag member)
  | some t =>
    have hid : t.id = r.tag.id := by simpa using List.find?_some hfind
    rw [distinct (List.mem_of_find?_eq_some hfind) member hid]
    rfl

end Turn

namespace Setting

/-! ### Runs in which nothing fails -/

def Smooth (s : Setting) : Prop := ∀ n, (s.chances n).fault = none

def rows (s : Setting) : List Tag := s.site.rows

variable {s : Setting} {α : Type}

theorem Smooth.later (h : s.Smooth) (site : Site) : (s.later site).Smooth := fun n => h (n + 1)

theorem Smooth.run (h : s.Smooth) (activity : Activity α) : (s.run activity).2.Smooth := by
  induction activity generalizing s with
  | done a => exact h
  | ask c next ih => exact ih _ (h.later _)

/-- The ledger is in order, and the rules of the stored tags are in force. -/
structure InStep (s : Setting) : Prop where
  ledger : ∃ attempts past mark, Ledger s.site attempts past mark ∧ mark < s.site.rules.published
  smooth : s.Smooth

namespace InStep

theorem later (h : s.InStep) : (s.later s.site).InStep := ⟨h.ledger, h.smooth.later s.site⟩

theorem eq_of_id (h : s.InStep) {a b : Tag} (ha : a ∈ s.rows) (hb : b ∈ s.rows)
    (hid : a.id = b.id) : a = b :=
  let ⟨_, _, _, ledger, _⟩ := h.ledger
  ledger.numbered.eq_of_id (ledger.stored a ha) (ledger.stored b hb) hid

theorem member_of_rulesOf (h : s.InStep) {d : Datum} {r : Rule}
    (hr : r ∈ s.site.rules.snapshot.rulesOf d) : r.tag ∈ s.rows := by
  obtain ⟨_, _, _, ledger, fresh⟩ := h.ledger
  obtain ⟨now, hbook⟩ := ledger.inForce fresh
  exact ((Book.mem_rulesOf hbook).mp hr).1

theorem refresh (numbered : s.site.store.tags.Numbered) (unrepeated : Unrepeated s.rows)
    (inOrder : s.site.rules.published ≤ s.site.rules.issued) (smooth : s.Smooth) {book : Book}
    (refreshed : (s.run refreshRules).1 = .ok book) :
    (s.run refreshRules).2.InStep ∧ (s.run refreshRules).2.rows = s.rows := by
  obtain ⟨hbook, hsite⟩ := s.snapshot_of_run_refreshRules refreshed inOrder
  have hsmooth := smooth.run refreshRules
  generalize (s.run refreshRules).2 = after at hsite hsmooth
  obtain ⟨site, chances⟩ := after
  subst hsite
  have hledger := @Ledger.start
    { s.site with rules := ⟨book, s.site.rules.issued + 1, s.site.rules.issued + 1⟩ } numbered
    unrepeated (Int.le_refl _) hbook
  exact ⟨⟨⟨_, _, _, hledger, Int.sub_one_lt_of_le (Int.le_refl _)⟩, hsmooth⟩, rfl⟩

end InStep

/-! ### One winner -/

/-- A setting in which a winner is being handled, where `before` are the tags that were stored at
first. -/
structure Handling (r : Rule) (before : List Tag) (stage : Stage) (s : Setting) : Prop where
  ledger : ∃ attempts past mark, Ledger s.site attempts past mark ∧
    stage.Fits before s.site attempts mark ∧ Known past r
  smooth : s.Smooth

theorem Handling.answer {r : Rule} {before : List Tag} {stage : Stage} {c : Call}
    (h : Handling r before stage s) (may : Permitted r before stage c) :
    (duty r before).reckons stage c (answer c s).1 ∧
      Handling r before ((duty r before).after stage c (answer c s).1) (answer c s).2 := by
  obtain ⟨⟨attempts, past, mark, ledger, fits, known⟩, smooth⟩ := h
  obtain ⟨hreckoned, attempts', past', mark', hledger, hfits, hkept, -⟩ :=
    ledger.act fits known (smooth 0) may
  exact ⟨hreckoned, ⟨attempts', past', mark', hledger, hfits, known.mono hkept⟩, smooth.later _⟩

/-- What a rule that is in force brings about when it is handled. -/
theorem InStep.handle (h : s.InStep) {d : Datum} {r : Rule}
    (hr : r ∈ s.site.rules.snapshot.rulesOf d) :
    (s.run (Monitor.handle r)).2.InStep ∧
      Effect s.rows ⟨r.tag, (s.run (Monitor.handle r)).1⟩ (s.run (Monitor.handle r)).2.rows ∧
      (s.run (Monitor.handle r)).1 ≠ some .alreadyCleared := by
  have member := h.member_of_rulesOf hr
  obtain ⟨⟨attempts, past, mark, ledger, fresh⟩, smooth⟩ := h
  have known := ledger.known_of_rulesOf hr
  have keeps := keeps_handle (ledger.sincere known) fun t ht =>
    ledger.loadable t (ledger.stored t ht)
  have entered : Handling r s.rows .entered s :=
    ⟨⟨attempts, past, mark, ledger, ⟨rfl, fresh⟩, known⟩, smooth⟩
  obtain ⟨stage, ends, ⟨attempts', past', mark', hledger, fits, -⟩, hsmooth⟩ :=
    keeps.run (fun _ _ _ => Handling.answer) entered
  obtain ⟨heffect, hfresh⟩ := fits.leave ends
  exact ⟨⟨⟨_, _, _, hledger, hfresh⟩, hsmooth⟩, heffect, heffect.present member⟩

/-! ### One message -/

/-- One message is classified. -/
def next (s : Setting) (m : Message) : Setting × Turn :=
  ((s.run (classify m)).2, ⟨s.rows, (s.run (classify m)).1⟩)

/-- A message makes a reaction to a stored tag, or leaves the tags as they are. -/
theorem InStep.next (h : s.InStep) (m : Message) :
    (s.next m).1.InStep ∧
      ((s.next m).2.reaction? = none ∧ (s.next m).1.rows = s.rows ∨
        ∃ e, (s.next m).2.reaction? = some e ∧ Effect s.rows e (s.next m).1.rows ∧
          e.transition ≠ some .alreadyCleared) := by
  unfold Setting.next
  cases hkey : m.deviceId.asKey with
  | error fault =>
    rw [run_classify_misuse s hkey]
    exact ⟨h.later, .inl ⟨rfl, rfl⟩⟩
  | ok key =>
    obtain ⟨keyed, rfl⟩ := Book.asKey_eq_ok.mp hkey
    cases hwinner : (scan (body m) (s.site.rules.snapshot.rulesOf m.deviceId)).2 with
    | none =>
      rw [s.run_classify_quiet keyed hwinner]
      exact ⟨h.later.later, .inl ⟨rfl, rfl⟩⟩
    | some r =>
      have hr := mem_of_winner hwinner
      have member := h.member_of_rulesOf hr
      rw [s.run_classify_won keyed hwinner]
      by_cases hthreshold : r.isThreshold = true
      · obtain ⟨hstep, heffect, hpresent⟩ := h.later.later.handle hr
        rw [reaction, if_pos hthreshold]
        exact ⟨hstep, .inr ⟨_, Turn.reaction?_verdict h.eq_of_id member m _, heffect, hpresent⟩⟩
      · have hequal : r.tag.isThreshold = false := by
          obtain ⟨_, _, _, ledger, _⟩ := h.ledger
          rw [Tag.isThreshold_of_compile (ledger.known_of_rulesOf hr).compiled,
            Bool.eq_false_iff.mpr hthreshold]
        rw [reaction, if_neg hthreshold]
        exact ⟨h.later.later,
          .inr ⟨_, Turn.reaction?_verdict h.eq_of_id member m none, .ignored hequal, nofun⟩⟩

/-- Messages that come one after the other make a history of the stored tags. -/
theorem InStep.history (h : s.InStep) (messages : List Message) :
    History s.rows ((Course.events Setting.next s messages).filterMap Turn.reaction?)
        (Course.after Setting.next s messages).rows ∧
      ∀ e ∈ (Course.events Setting.next s messages).filterMap Turn.reaction?,
        e.transition ≠ some .alreadyCleared := by
  induction messages generalizing s with
  | nil => exact ⟨.nil _, nofun⟩
  | cons m rest ih =>
    obtain ⟨hstep, hturn⟩ := h.next m
    obtain ⟨hlater, hrest⟩ := ih hstep
    rw [Course.events_cons, Course.after_cons, List.filterMap_cons]
    rcases hturn with ⟨hnone, hrows⟩ | ⟨e, hsome, heffect, hpresent⟩
    · rw [hnone]
      rw [hrows] at hlater
      exact ⟨hlater, hrest⟩
    · rw [hsome]
      exact ⟨.cons heffect hlater, List.forall_mem_cons.mpr ⟨hpresent, hrest⟩⟩

/-! ### Both states of every concern -/

/-- After any messages, the all-clear of a concern is stored if and only if the latest message on
which its alerting tag or itself won was won by the alerting tag, or there was none and it was
stored at first. There is never more than one, the other tags stay as they are, and creations and
clearances take turns. -/
theorem hysteresis_cycle {book : Book} (reachable : s.site.store.Reachable)
    (unrepeated : Unrepeated s.rows) (inOrder : s.site.rules.published ≤ s.site.rules.issued)
    (refreshed : (s.run refreshRules).1 = .ok book) (smooth : s.Smooth)
    (messages : List Message) :
    (∀ c : Concern,
      (Course.after next (s.run refreshRules).2 messages).rows.any (·.clears c) =
        ((Course.events next (s.run refreshRules).2 messages).filterMap
          (Turn.sign c)).getLast?.getD (s.rows.any (·.clears c))) ∧
      (∀ c : Concern,
        (Course.after next (s.run refreshRules).2 messages).rows.countP (·.clears c) ≤ 1) ∧
      (Course.after next (s.run refreshRules).2 messages).rows.filter (fun t => !t.isAllClear) =
        s.rows.filter (fun t => !t.isAllClear) ∧
      ∀ c : Concern,
        (s.rows.any (·.clears c) ::
          (Course.events next (s.run refreshRules).2 messages).filterMap
            (Turn.swing c)).IsChain (· ≠ ·) := by
  obtain ⟨hstep, hrows⟩ :=
    InStep.refresh reachable.numbered unrepeated inOrder smooth refreshed
  obtain ⟨history, present⟩ := hstep.history messages
  rw [hrows] at history
  refine ⟨fun c => ?_, (history.unrepeated unrepeated).countP_le_one, history.others, fun c => ?_⟩
  · have hlast := history.any_clears present unrepeated c
    rwa [List.filterMap_filterMap] at hlast
  · have hswings := history.swings_alternate present unrepeated c
    rwa [List.filterMap_filterMap] at hswings

/-- The all-clear of the second device of the sample. -/
def relief : Concern := ⟨.int 2, ⟨.text ".", .text "<", .text "5", .int 0⟩⟩

theorem reachable_warned : warned.site.store.Reachable :=
  .perform (.perform .empty ⟨0, none⟩ (.createTag _)) ⟨0, none⟩ (.createTag _)

theorem hysteresis_cycle_warned :
    (Course.after next (warned.run refreshRules).2 [reading "9"]).rows.any (·.clears relief) =
        true ∧
      (Course.after next (warned.run refreshRules).2 [reading "9", reading "3"]).rows.any
        (·.clears relief) = false := by
  have hunrepeated : Unrepeated warned.rows := by
    refine .cons (fun t _ h => ?_) (List.pairwise_singleton _ _)
    exact absurd h.1 (by decide)
  have cycle (messages : List Message) := hysteresis_cycle reachable_warned hunrepeated
    (Int.le_refl _) rfl (fun _ => rfl) messages
  exact ⟨((cycle [reading "9"]).1 relief).trans (by decide +kernel),
    ((cycle [reading "9", reading "3"]).1 relief).trans (by decide +kernel)⟩

end Setting

end DeviceAlerts.Monitor
