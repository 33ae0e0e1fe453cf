import DeviceAlerts.Monitor.Classify
import DeviceAlerts.Proofs.Monitor.Setting
import DeviceAlerts.Proofs.Rule.Matching

/-! The verdict on a message, read off the stored tags. No rule, group or cache is needed to say
which tag wins: it is the first one of the device, in the order of the store, that compiles and
finds what it looks for. Tags that come later and tags of other devices have no say in it. -/

namespace DeviceAlerts

open DeviceAlerts.Monitor DeviceAlerts.Time

namespace Tag

/-! ### A direct scan of the tags -/

def IsOf (t : Tag) (m : Message) : Prop := (t.deviceId == m.deviceId) = true

instance (t : Tag) (m : Message) : Decidable (t.IsOf m) := inferInstanceAs (Decidable (_ = true))

/-- Whether a tag of the device of a message compiles and finds what it looks for. -/
def Hits (t : Tag) (m : Message) : Prop :=
  t.IsOf m ∧ ∃ r i text, t.compile = .ok r ∧ t.condition.arrayIndex = .int i ∧
    body m = .text text ∧ r.Finds i text

/-- The outcome for a message on which a tag wins. -/
def alert (t : Tag) (m : Message) (transition : Option Transition) : Outcome :=
  ⟨if t.severity.isTruthy then { m with severity := t.severity } else m, true, t.subject, m.text,
    t.id, transition⟩

/-- What a message comes to under a list of tags, whatever is done about the tag that wins. -/
inductive Verdict (tags : List Tag) (m : Message) : Outcome → Prop
  | won {before after : List Tag} {t : Tag} (split : tags = before ++ t :: after)
      (hit : t.Hits m) (first : ∀ other ∈ before, ¬ other.Hits m) (transition : Option Transition) :
      Verdict tags m (t.alert m transition)
  | lost (missed : ∀ t ∈ tags, ¬ t.Hits m) :
      Verdict tags m ⟨m, false, .text "", .text "", .null, none⟩

/-- A change of the tags that leaves those of the device of a message alone, if not all of them
then those up to one that hits. -/
inductive Spared (m : Message) : List Tag → List Tag → Prop
  | all {tags others : List Tag} (same : tags.filter (IsOf · m) = others.filter (IsOf · m)) :
      Spared m tags others
  | upTo {before after others rest : List Tag} {t : Tag} (hit : t.Hits m)
      (same : before.filter (IsOf · m) = others.filter (IsOf · m)) :
      Spared m (before ++ t :: after) (others ++ t :: rest)

end Tag

/-! ### The winner among the rules -/

namespace Monitor

theorem winner_scan (text : Datum) (rules : List Rule) :
    (scan text rules).2 = rules.find? fun r => r.fires text := by
  induction rules with
  | nil => rfl
  | cons r rest ih =>
    have hscan : (scan text (r :: rest)).2 =
        if r.fires text then some r else (scan text rest).2 := by
      show (if r.accepts (r.matcher.extract text) then _ else _ : List Notice × Option Rule).2 = _
      unfold Rule.fires
      split <;> rfl
    rw [hscan, ih, List.find?_cons]
    cases r.fires text <;> rfl

theorem mem_of_winner {text : Datum} {rules : List Rule} {r : Rule}
    (hr : (scan text rules).2 = some r) : r ∈ rules := by
  rw [winner_scan] at hr
  exact List.mem_of_find?_eq_some hr

end Monitor

namespace Tag

theorem hits_iff {t : Tag} {m : Message} {i : Int} (hi : t.condition.arrayIndex = .int i) :
    t.Hits m ↔ t.IsOf m ∧ ∃ r, t.compile = .ok r ∧ r.fires (body m) = true := by
  refine and_congr_right fun _ => exists_congr fun r => ?_
  constructor
  · rintro ⟨j, text, hr, hj, htext, hfinds⟩
    have hindex : r.matcher.index = .int j := by
      rw [(Condition.compile_eq_ok.mp (compile_eq_ok.mp hr).2).2.2, hj]
    exact ⟨hr, (Rule.fires_iff hindex).mpr ⟨text, htext, hfinds⟩⟩
  · rintro ⟨hr, hfires⟩
    have hindex : r.matcher.index = .int i := by
      rw [(Condition.compile_eq_ok.mp (compile_eq_ok.mp hr).2).2.2, hi]
    obtain ⟨text, htext, hfinds⟩ := (Rule.fires_iff hindex).mp hfires
    exact ⟨i, text, hr, hi, htext, hfinds⟩

theorem find_rulesOf {tags : List Tag} {now : Moment} {book : Book}
    (h : Book.ofTags tags now = .ok book) (m : Message) :
    (book.rulesOf m.deviceId).find? (fun r => r.fires (body m)) =
      (tags.find? fun t =>
        (t.deviceId == m.deviceId) && t.rule?.any fun r => r.fires (body m)).bind rule? := by
  rw [Book.rulesOf_ofTags h, List.find?_filterMap, List.find?_filter]
  simp only [Bool.decide_and, Bool.decide_eq_true]

theorem hits_iff_any {t : Tag} {m : Message} (hi : ∃ i, t.condition.arrayIndex = .int i) :
    t.Hits m ↔
      ((t.deviceId == m.deviceId) && t.rule?.any fun r => r.fires (body m)) = true := by
  obtain ⟨i, hi⟩ := hi
  rw [hits_iff hi, Bool.and_eq_true, Option.any_eq_true]
  simp only [rule?_eq_some, IsOf]

/-- The winner among the rules in force belongs to the first tag that hits. -/
theorem verdict_of_winner {tags : List Tag} {now : Moment} {book : Book}
    (h : Book.ofTags tags now = .ok book)
    (indexed : ∀ t ∈ tags, ∃ i, t.condition.arrayIndex = .int i) {m : Message} {r : Rule}
    (hr : (scan (body m) (book.rulesOf m.deviceId)).2 = some r) (transition : Option Transition) :
    Verdict tags m (verdict m r transition) := by
  rw [winner_scan, find_rulesOf h, Option.bind_eq_some_iff] at hr
  obtain ⟨t, ht, hrule⟩ := hr
  obtain ⟨hit, before, after, split, missed⟩ := List.find?_eq_some_iff_append.mp ht
  obtain ⟨rfl, _⟩ := compile_eq_ok.mp (rule?_eq_some.mp hrule)
  have first : ∀ other ∈ before, ¬ other.Hits m := fun other hother hits => by
    have member : other ∈ tags := split ▸ List.mem_append_left _ hother
    have hmissed := missed other hother
    rw [(hits_iff_any (indexed other member)).mp hits] at hmissed
    cases hmissed
  have indexed := indexed r.tag (List.mem_of_find?_eq_some ht)
  exact .won split ((hits_iff_any indexed).mpr hit) first transition

theorem verdict_of_no_winner {tags : List Tag} {now : Moment} {book : Book}
    (h : Book.ofTags tags now = .ok book)
    (indexed : ∀ t ∈ tags, ∃ i, t.condition.arrayIndex = .int i) {m : Message}
    (hr : (scan (body m) (book.rulesOf m.deviceId)).2 = none) :
    Verdict tags m (.quiet m) := by
  refine .lost fun t ht hit => ?_
  have hany := (hits_iff_any (indexed t ht)).mp hit
  rw [winner_scan, find_rulesOf h, Option.bind_eq_none_iff] at hr
  cases hfind : tags.find? fun t =>
      (t.deviceId == m.deviceId) && t.rule?.any fun r => r.fires (body m) with
  | none => exact List.find?_eq_none.mp hfind t ht hany
  | some winner =>
    have hwinner := List.find?_some hfind
    obtain ⟨r, hcompiled, _⟩ := (Option.any_eq_true _ _).mp (Bool.and_eq_true_iff.mp hwinner).2
    rw [hr winner hfind] at hcompiled
    cases hcompiled

open scoped Classical in
theorem verdict_iff {tags : List Tag} {m : Message} {o : Outcome} :
    Verdict tags m o ↔
      match tags.find? fun t => decide (t.Hits m) with
      | some t => ∃ transition, o = t.alert m transition
      | none => o = .quiet m := by
  constructor
  · intro h
    cases h with
    | @won before after t split hit first transition =>
      have hfind : tags.find? (fun t => decide (t.Hits m)) = some t :=
        List.find?_eq_some_iff_append.mpr ⟨decide_eq_true hit, before, after, split,
          fun other hother => by simpa using first other hother⟩
      rw [hfind]
      exact ⟨transition, rfl⟩
    | lost missed =>
      have hfind : tags.find? (fun t => decide (t.Hits m)) = none :=
        List.find?_eq_none.mpr fun t ht => by simpa using missed t ht
      rw [hfind]
      rfl
  · intro h
    cases hfind : tags.find? fun t => decide (t.Hits m) with
    | some t =>
      rw [hfind] at h
      obtain ⟨transition, rfl⟩ := h
      obtain ⟨hit, before, after, split, first⟩ := List.find?_eq_some_iff_append.mp hfind
      exact .won split (of_decide_eq_true hit)
        (fun other hother => by simpa using first other hother) transition
    | none =>
      rw [hfind] at h
      subst h
      exact .lost fun t ht => by simpa using List.find?_eq_none.mp hfind t ht

open scoped Classical in
theorem find?_hits_filter (tags : List Tag) (m : Message) :
    (tags.filter (IsOf · m)).find? (fun t => decide (t.Hits m)) =
      tags.find? fun t => decide (t.Hits m) := by
  rw [List.find?_filter]
  congr 1
  funext t
  have himp : t.Hits m → t.IsOf m := And.left
  simp only [decide_eq_true_eq, decide_eq_decide]
  exact ⟨And.right, fun hit => ⟨himp hit, hit⟩⟩

/-- Tags that are spared come to the same verdict. -/
theorem Spared.verdict {tags others : List Tag} {m : Message} {o : Outcome}
    (h : Spared m tags others) (verdict : Verdict tags m o) : Verdict others m o := by
  classical
  rw [verdict_iff] at verdict ⊢
  have hfind : tags.find? (fun t => decide (t.Hits m)) =
      others.find? fun t => decide (t.Hits m) := by
    cases h with
    | all same => rw [← find?_hits_filter tags, same, find?_hits_filter others]
    | @upTo before after others rest t hit same =>
      have hcons (l : List Tag) : (t :: l).find? (fun t => decide (t.Hits m)) = some t := by
        rw [List.find?_cons, decide_eq_true hit]
      rw [List.find?_append, List.find?_append, ← find?_hits_filter before, same,
        find?_hits_filter others, hcons, hcons]
  rwa [hfind] at verdict

/-- Two verdicts differ in no more than what was done about the tag that won. -/
theorem Verdict.unique {tags : List Tag} {m : Message} {o other : Outcome}
    (first : Verdict tags m o) (second : Verdict tags m other) :
    ∃ transition, other = { o with transition } := by
  classical
  rw [verdict_iff] at first second
  cases hfind : tags.find? fun t => decide (t.Hits m) with
  | some t =>
    rw [hfind] at first second
    obtain ⟨_, rfl⟩ := first
    obtain ⟨transition, rfl⟩ := second
    exact ⟨transition, rfl⟩
  | none =>
    rw [hfind] at first second
    subst first second
    exact ⟨none, rfl⟩

end Tag

/-! ### Classifying a message -/

namespace Monitor.Setting

variable (s : Setting) {m : Message}

theorem run_classify_misuse {fault : Datum.Misuse} (h : m.deviceId.asKey = .error fault) :
    s.run (classify m) = (.error (.misuse fault), s.later s.site) := by
  unfold classify classifyWith
  rw [run_bind, run_readBook, h]
  rfl

section

variable (react : Rule → Activity (Option Transition))

/-- What is done about a rule that wins, when `react` is what is done about thresholds. -/
def response (r : Rule) : Activity (Option Transition) :=
  if r.isThreshold then react r else pure none

theorem run_classifyWith_quiet (keyed : m.deviceId.asKey = .ok m.deviceId)
    (h : (scan (body m) (s.site.rules.snapshot.rulesOf m.deviceId)).2 = none) :
    s.run (classifyWith react m) = (.ok (.quiet m), (s.later s.site).later s.site) := by
  unfold classifyWith
  rw [run_bind, run_readBook, keyed]
  simp only [run_bind, run_tell, h]
  rfl

theorem run_classifyWith_won (keyed : m.deviceId.asKey = .ok m.deviceId) {r : Rule}
    (h : (scan (body m) (s.site.rules.snapshot.rulesOf m.deviceId)).2 = some r) :
    s.run (classifyWith react m) =
      (.ok (verdict m r (((s.later s.site).later s.site).run (response react r)).1),
        (((s.later s.site).later s.site).run (response react r)).2) := by
  unfold classifyWith response
  rw [run_bind, run_readBook, keyed]
  simp only [run_bind, run_tell, h]
  by_cases hthreshold : r.isThreshold = true
  · rw [if_pos hthreshold, if_pos hthreshold, run_bind]
    rfl
  · rw [if_neg hthreshold, if_neg hthreshold]
    rfl

end

theorem run_classify_quiet (keyed : m.deviceId.asKey = .ok m.deviceId)
    (h : (scan (body m) (s.site.rules.snapshot.rulesOf m.deviceId)).2 = none) :
    s.run (classify m) = (.ok (.quiet m), (s.later s.site).later s.site) :=
  s.run_classifyWith_quiet handle keyed h

/-- What is done about a rule that wins. -/
def reaction (r : Rule) : Activity (Option Transition) :=
  if r.isThreshold then handle r else pure none

theorem run_classify_won (keyed : m.deviceId.asKey = .ok m.deviceId) {r : Rule}
    (h : (scan (body m) (s.site.rules.snapshot.rulesOf m.deviceId)).2 = some r) :
    s.run (classify m) =
      (.ok (verdict m r (((s.later s.site).later s.site).run (reaction r)).1),
        (((s.later s.site).later s.site).run (reaction r)).2) :=
  s.run_classifyWith_won handle keyed h

/-- The rules can be refreshed, what has been published had been issued, and the tags have numbers
for indices. -/
structure Ready (s : Setting) : Prop where
  refreshed : ∃ book, (s.run refreshRules).1 = .ok book
  inOrder : s.site.rules.published ≤ s.site.rules.issued
  indexed : ∀ t ∈ s.site.store.tags.rows, ∃ i, t.condition.arrayIndex = .int i

theorem Ready.classify {s : Setting} (h : s.Ready) (keyed : m.deviceId.asKey = .ok m.deviceId) :
    ∃ o, ((s.run refreshRules).2.run (classify m)).1 = .ok o ∧
      Tag.Verdict s.site.store.tags.rows m o := by
  obtain ⟨book, hrefreshed⟩ := h.refreshed
  obtain ⟨⟨now, hbook⟩, hsite⟩ := s.snapshot_of_run_refreshRules hrefreshed h.inOrder
  generalize (s.run refreshRules).2 = ready at hsite
  have hsnapshot : ready.site.rules.snapshot = book := by rw [hsite]
  rw [← hsnapshot] at hbook
  cases hwinner : (scan (body m) (ready.site.rules.snapshot.rulesOf m.deviceId)).2 with
  | none =>
    rw [ready.run_classify_quiet keyed hwinner]
    exact ⟨_, rfl, Tag.verdict_of_no_winner hbook h.indexed hwinner⟩
  | some r =>
    rw [ready.run_classify_won keyed hwinner]
    exact ⟨_, rfl, Tag.verdict_of_winner hbook h.indexed hwinner _⟩

/-- Once the rules have been refreshed, a message is classified as the stored tags say, and in the
same way wherever its tags have been spared. -/
theorem classify_eq_direct_scan {s : Setting} (h : s.Ready)
    (keyed : m.deviceId.asKey = .ok m.deviceId) :
    ∃ o, ((s.run refreshRules).2.run (Monitor.classify m)).1 = .ok o ∧
      Tag.Verdict s.site.store.tags.rows m o ∧
      ∀ other : Setting, other.Ready →
        Tag.Spared m s.site.store.tags.rows other.site.store.tags.rows → ∃ transition,
          ((other.run refreshRules).2.run (Monitor.classify m)).1 = .ok { o with transition } := by
  obtain ⟨o, ho, hverdict⟩ := h.classify keyed
  refine ⟨o, ho, hverdict, fun other hother spared => ?_⟩
  obtain ⟨p, hp, hsecond⟩ := hother.classify keyed
  obtain ⟨transition, rfl⟩ := (spared.verdict hverdict).unique hsecond
  exact ⟨transition, hp⟩

/-- The tags of two devices, the second of which is to be warned of. -/
def warned : Setting where
  site := .fresh (stocked
    [⟨.int 1, .text "odd", ⟨.text "a", .text "?", .text "1", .int 1⟩, .text "A", .text ""⟩,
      ⟨.int 2, .text "hot", ⟨.text ".", .text ">", .text "5", .int 0⟩, .text "Hot", .text "high"⟩]
    ⟨0, none⟩)
  chances _ := .calm ⟨0, none⟩

/-- A message of the second device. -/
def reading (text : String) : Message :=
  ⟨.int 2, .text text, .text "info", .text "info", .text "core", .null⟩

theorem classify_eq_direct_scan_warned :
    ∃ o, ((warned.run refreshRules).2.run (Monitor.classify (reading "9"))).1 = .ok o ∧
      Tag.Verdict warned.site.store.tags.rows (reading "9") o ∧ o.subject = .text "Hot" := by
  have hindexed : ∀ t ∈ warned.site.store.tags.rows, ∃ i, t.condition.arrayIndex = .int i := by
    simp [warned, stocked, Site.fresh, Store.Tags.create, TagDraft.stored, Store.Tags.empty]
  have hready : warned.Ready := ⟨⟨_, rfl⟩, Int.le_refl _, hindexed⟩
  obtain ⟨o, ho, hverdict, -⟩ := classify_eq_direct_scan hready (m := reading "9") rfl
  refine ⟨o, ho, hverdict, ?_⟩
  cases ho
  rfl

end Monitor.Setting

end DeviceAlerts
