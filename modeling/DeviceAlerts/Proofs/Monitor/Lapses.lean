import DeviceAlerts.Proofs.Monitor.Aftermath
import DeviceAlerts.Proofs.Monitor.Cycle

/-! Hysteresis while any store call may fail. A change that fails is made later, and a deletion that
is not loaded is asked for again, which does no harm. The creation of an all-clear that is not
loaded is a lapse: the rules in force know nothing of it, so the next trip of the concern creates
another.
The main statement is that this is all that can happen: there are never more all-clears of a concern
than one and as many as there have been lapses. -/

namespace DeviceAlerts.Monitor

open DeviceAlerts.Time

/-- A message that is classified, with the notices that were told meanwhile. -/
structure Hearing extends Turn where
  notices : List Notice

/-- Whether an all-clear of a concern has been created and not been loaded. -/
def Hearing.lapse (c : Concern) (h : Hearing) : Bool :=
  h.reaction?.any (·.creates c) && decide (.transitionNotLoaded ∈ h.notices)

namespace Setting

def hear (s : Setting) (m : Message) : Setting × Hearing :=
  ((s.run (classify m)).2, ⟨⟨s.rows, (s.run (classify m)).1⟩, s.told (classify m)⟩)

end Setting

/-! ### The rules in force and the stored tags -/

/-- The rules in force are those of tags that have been stored. All of them that are no all-clears
still are, and if there was no all-clear of a concern among them, no more have been stored since
than there have been lapses. -/
def Covered (c : Concern) (lapses : Nat) (s : Site) : Prop :=
  ∃ past now, Book.ofTags past now = .ok s.rules.snapshot ∧
    (∀ t ∈ past, t.isAllClear = false → t ∈ s.rows) ∧
    (past.any (·.clears c) = false → s.rows.countP (·.clears c) ≤ lapses)

/-- How many all-clears of a concern there may be after a number of lapses. -/
structure Bounded (c : Concern) (lapses : Nat) (s : Site) : Prop where
  abreast : Abreast s
  count : s.rows.countP (·.clears c) ≤ 1 + lapses
  covered : Covered c lapses s

variable {c : Concern} {lapses : Nat} {s after : Site}

theorem Covered.of_loaded {now : Moment} (h : Book.ofTags s.rows now = .ok s.rules.snapshot) :
    Covered c lapses s := by
  refine ⟨s.rows, now, h, fun t ht _ => ht, fun none => ?_⟩
  rw [List.countP_eq_zero.mpr fun t ht => by simpa using List.any_eq_false.mp none t ht]
  exact Nat.zero_le lapses

theorem countP_clears_append {t : Tag} {draft : TagDraft} (alarm : t.alarm? = some draft)
    (rows : List Tag) (id : Int) (now : Moment) (c : Concern) :
    (rows ++ [draft.stored id now]).countP (·.clears c) =
      rows.countP (·.clears c) + if draft.concern == c then 1 else 0 := by
  rw [List.countP_append, List.countP_singleton, Tag.clears_of_alarm? alarm]

namespace Bounded

theorem mono (h : Bounded c lapses s) {more : Nat} (le : lapses ≤ more) : Bounded c more s := by
  obtain ⟨abreast, count, past, now, hbook, kept, silent⟩ := h
  exact ⟨abreast, by omega, past, now, hbook, kept, fun none => Nat.le_trans (silent none) le⟩

/-- After a change, a reload makes up for what the rules in force do not know of yet. -/
theorem reloaded (abreast : Abreast s) (count : s.rows.countP (·.clears c) ≤ 1 + lapses)
    {missed : Prop} (covered : missed → Covered c lapses s)
    (reloaded : s.Reloaded .rules missed after) : Bounded c lapses after := by
  obtain ⟨_, refreshed, failed⟩ := reloaded
  refine ⟨abreast.refreshed refreshed, ?_, ?_⟩
  · rw [Site.rows, refreshed.store]
    exact count
  · cases refreshed with
    | loaded built => exact .of_loaded built
    | failed failure => exact covered (failed rfl)

/-- An all-clear is deleted. -/
theorem delete (h : Bounded c lapses s) {r : Rule} (clear : r.tag.isAllClear = true)
    (stands : s.store.tags.Stands r.tag) {missed : Prop}
    (reloaded : Site.Reloaded .rules (s.withTags (s.store.tags.delete r.tag.id).2) missed after) :
    Bounded c lapses after := by
  have fewer : (s.store.tags.delete r.tag.id).2.rows.countP (·.clears c) ≤
      s.rows.countP (·.clears c) := (Store.Tags.sublist_delete _ _).countP_le
  refine .reloaded (h.abreast.delete r.tag.id) (Nat.le_trans fewer h.count) (fun _ => ?_) reloaded
  obtain ⟨past, now, hbook, kept, silent⟩ := h.covered
  refine ⟨past, now, hbook, fun t ht halert => ?_, fun none => Nat.le_trans fewer (silent none)⟩
  obtain ⟨i, _, hi⟩ := stands.given
  show t ∈ (s.store.tags.delete r.tag.id).2.rows
  rw [hi]
  refine Store.Tags.mem_delete (kept t ht halert) fun hid => ?_
  rw [stands.only t (kept t ht halert) (hid.trans hi.symm), clear] at halert
  cases halert

/-- An all-clear is created, as far as the rules in force know for the first time. -/
theorem create (h : Bounded c lapses s) {r : Rule} {draft : TagDraft}
    (compiled : r.tag.compile = .ok r) (planned : plan r s.rules.snapshot = .create draft)
    {missed : Prop} {now : Moment} {more : Nat} (le : lapses ≤ more)
    (lapse : (draft.concern == c) = true → missed → lapses < more)
    (reloaded : Site.Reloaded .rules (s.withTags (s.store.tags.create now draft).2) missed after) :
    Bounded c more after := by
  obtain ⟨rfl, hthreshold, halert, habsent⟩ := of_plan_create planned
  have halarm := Rule.alarm?_of_compile compiled hthreshold halert
  have hrows : (s.withTags (s.store.tags.create now r.recovery).2).rows =
      s.rows ++ [r.recovery.stored s.store.tags.nextId now] := rfl
  have hcount := countP_clears_append halarm s.rows s.store.tags.nextId now c
  obtain ⟨past, read, hbook, kept, silent⟩ := h.covered
  rw [any_agrees hbook compiled hthreshold] at habsent
  have hsilent (same : (r.recovery.concern == c) = true) : s.rows.countP (·.clears c) ≤ lapses := by
    simp only [Tag.clears_congr same] at habsent
    exact silent habsent
  refine .reloaded (h.abreast.create now r.recovery) ?_ (fun hmissed => ?_) reloaded
  · rw [hrows, hcount]
    split
    · next same =>
      have := hsilent same
      omega
    · have := h.count
      omega
  · refine ⟨past, read, hbook, fun t ht hother => ?_, fun none => ?_⟩
    · rw [hrows]
      exact List.mem_append_left _ (kept t ht hother)
    · rw [hrows, hcount]
      split
      · next same =>
        have := hsilent same
        have := lapse same hmissed
        omega
      · have := silent none
        omega

/-- A winner is handled; `more` counts the lapse that this may be. -/
theorem handle (h : Bounded c lapses s) {d : Datum} {r : Rule}
    (hr : r ∈ s.rules.snapshot.rulesOf d) {missed : Prop} {transition : Option Transition}
    (aftermath : Aftermath r s missed transition after) {more : Nat} (le : lapses ≤ more)
    (lapse : Reaction.creates c ⟨r.tag, transition⟩ = true → missed → lapses < more) :
    Bounded c more after := by
  obtain ⟨compiled, stands⟩ := h.abreast.stands d r hr
  cases aftermath with
  | still uncreated => exact h.mono le
  | cleared planned answered reloaded =>
    obtain ⟨rfl, hthreshold, hrecovery⟩ := of_plan_delete planned
    have hclear : r.tag.isAllClear = true := by
      rw [Tag.isAllClear, Tag.isThreshold_of_compile compiled, hthreshold, hrecovery]
      rfl
    exact (h.delete hclear stands reloaded).mono le
  | tripped planned reloaded =>
    refine h.create compiled planned le (fun same => lapse ?_) reloaded
    obtain ⟨rfl, hthreshold, halert, -⟩ := of_plan_create planned
    simp only [Reaction.creates, Reaction.trips, Rule.alarm?_of_compile compiled hthreshold halert,
      Option.any_some, same, decide_true, Bool.and_self]

end Bounded

theorem Covered.member (h : Covered c lapses s) {d : Datum} {r : Rule}
    (hr : r ∈ s.rules.snapshot.rulesOf d) {transition : Option Transition}
    (creates : Reaction.creates c ⟨r.tag, transition⟩ = true) : r.tag ∈ s.rows := by
  obtain ⟨past, now, hbook, kept, -⟩ := h
  obtain ⟨htrips, -⟩ := Bool.and_eq_true_iff.mp creates
  obtain ⟨draft, halarm, -⟩ := (Option.any_eq_true _ _).mp htrips
  exact kept r.tag ((Book.mem_rulesOf hbook).mp hr).1 (Tag.alarm?_eq_some halarm).1

/-! ### Messages -/

namespace Setting

variable {s : Setting}

theorem told_classify_won {m : Message} (keyed : m.deviceId.asKey = .ok m.deviceId) {r : Rule}
    (h : (scan (body m) (s.site.rules.snapshot.rulesOf m.deviceId)).2 = some r) {n : Notice}
    (hn : n ∈ ((s.later s.site).later s.site).told (reaction r)) : n ∈ s.told (classify m) := by
  unfold classify classifyWith
  refine mem_told_bind ?_
  rw [run_readBook, keyed]
  refine mem_told_bind ?_
  simp only [run_tell, h]
  unfold reaction at hn
  split
  · next hthreshold =>
    rw [if_pos hthreshold] at hn
    rw [told_bind]
    exact List.mem_append_left _ hn
  · next hequal =>
    rw [if_neg hequal] at hn
    cases hn

theorem lapse_of_creates {m : Message} {r : Rule} (numbered : s.site.store.tags.Numbered)
    (member : r.tag ∈ s.rows) (keyed : m.deviceId.asKey = .ok m.deviceId)
    (h : (scan (body m) (s.site.rules.snapshot.rulesOf m.deviceId)).2 = some r)
    (creates : Reaction.creates c
      ⟨r.tag, (((s.later s.site).later s.site).run (reaction r)).1⟩ = true)
    (missed : .transitionNotLoaded ∈ ((s.later s.site).later s.site).told (reaction r)) :
    (s.hear m).2.lapse c = true := by
  have hreaction : (s.hear m).2.reaction? =
      some ⟨r.tag, (((s.later s.site).later s.site).run (reaction r)).1⟩ := by
    show Turn.reaction? ⟨s.rows, (s.run (classify m)).1⟩ = _
    rw [s.run_classify_won keyed h]
    exact Turn.reaction?_verdict numbered.eq_of_id member m _
  rw [Hearing.lapse, hreaction, Option.any_some, creates, Bool.true_and]
  exact decide_eq_true (told_classify_won keyed h missed)

theorem bounded_hear (h : Bounded c lapses s.site) (m : Message) :
    Bounded c (lapses + if (s.hear m).2.lapse c then 1 else 0) (s.hear m).1.site := by
  cases hkey : m.deviceId.asKey with
  | error fault =>
    refine Bounded.mono ?_ (Nat.le_add_right _ _)
    show Bounded c lapses (s.run (classify m)).2.site
    rw [run_classify_misuse s hkey]
    exact h
  | ok key =>
    obtain ⟨keyed, rfl⟩ := Book.asKey_eq_ok.mp hkey
    cases hwinner : (scan (body m) (s.site.rules.snapshot.rulesOf m.deviceId)).2 with
    | none =>
      refine Bounded.mono ?_ (Nat.le_add_right _ _)
      show Bounded c lapses (s.run (classify m)).2.site
      rw [s.run_classify_quiet keyed hwinner]
      exact h
    | some r =>
      have hr := mem_of_winner hwinner
      have hsite : (s.hear m).1.site =
          (((s.later s.site).later s.site).run (reaction r)).2.site := by
        show (s.run (classify m)).2.site = _
        rw [s.run_classify_won keyed hwinner]
      rw [hsite]
      by_cases hthreshold : r.isThreshold = true
      · have hreaction : reaction r = handle r := if_pos hthreshold
        have haftermath := ((s.later s.site).later s.site).aftermath_handle r h.abreast.within
        rw [hreaction]
        refine h.handle hr haftermath (Nat.le_add_right _ _) fun hcreates hmissed => ?_
        have hlapse := lapse_of_creates h.abreast.numbered (h.covered.member hr hcreates) keyed
          hwinner (hreaction ▸ hcreates) (hreaction ▸ hmissed)
        rw [if_pos hlapse]
        exact Nat.lt_succ_self _
      · have hreaction : reaction r = pure none := if_neg hthreshold
        rw [hreaction]
        exact h.mono (Nat.le_add_right _ _)

theorem bounded_after (h : Bounded c lapses s.site) (messages : List Message) :
    Bounded c (lapses + (Course.events hear s messages).countP (·.lapse c))
      (Course.after hear s messages).site := by
  induction messages generalizing s lapses with
  | nil => exact h
  | cons m rest ih =>
    have hrest := ih (bounded_hear h m)
    rw [Course.events_cons, Course.after_cons, List.countP_cons,
      Nat.add_comm (List.countP _ _), ← Nat.add_assoc]
    exact hrest

/-- Whatever store calls fail, there are no more all-clears of a concern than one and as many as
have been created without being loaded. -/
theorem countP_clears_le_one_add_lapses (reachable : s.site.store.Reachable)
    (unrepeated : Unrepeated s.rows) (inOrder : s.site.rules.published ≤ s.site.rules.issued)
    (loaded : ∃ now, Book.ofTags s.rows now = .ok s.site.rules.snapshot)
    (messages : List Message) (c : Concern) :
    (Course.after hear s messages).rows.countP (·.clears c) ≤
      1 + (Course.events hear s messages).countP (·.lapse c) := by
  obtain ⟨now, hbook⟩ := loaded
  have hstart : Bounded c 0 s.site :=
    ⟨.of_loaded reachable.numbered inOrder ⟨now, hbook⟩, unrepeated.countP_le_one c,
      .of_loaded hbook⟩
  have hafter := (bounded_after hstart messages).count
  rwa [Nat.zero_add] at hafter

/-- The sample with its rules in force, where the list of tags cannot be read when the first
all-clear has been created. -/
def interrupted : Setting where
  site := (warned.run refreshRules).2.site
  chances n := { Chance.calm ⟨0, none⟩ with
    fault := if n = 5 then some (.unavailable "list_tags") else none }

theorem countP_clears_le_one_add_lapses_interrupted :
    (Course.after hear interrupted [reading "9", reading "9"]).rows.countP (·.clears relief) ≤
      2 := by
  have hunrepeated : Unrepeated interrupted.rows := by
    refine .cons (fun t _ h => ?_) (List.pairwise_singleton _ _)
    exact absurd h.1 (by decide)
  have hbound := countP_clears_le_one_add_lapses (s := interrupted) reachable_warned hunrepeated
    (Int.le_refl _) ⟨⟨0, none⟩, rfl⟩ [reading "9", reading "9"] relief
  have hlapses : (Course.events hear interrupted [reading "9", reading "9"]).countP
      (·.lapse relief) = 1 := by decide +kernel
  rwa [hlapses] at hbound

/-- Two all-clears of one concern are stored. -/
theorem all_clear_repeated_after_lapse :
    (Course.after hear interrupted [reading "9", reading "9"]).rows.countP (·.clears relief) =
      2 := by
  decide +kernel

end Setting

end DeviceAlerts.Monitor
