import DeviceAlerts.Proofs.Monitor.Cycle

/-! Hysteresis with any number of callers. A caller evaluates a message against the rules in force
and acts on the winner later; only one of them acts at a time. Others refresh the rules meanwhile,
in any order, and may fail. Whoever acts finds the effects of all who acted before in the rules in
force, so that the reactions follow one another as if nobody else had been at work. -/

namespace DeviceAlerts

open DeviceAlerts.Monitor DeviceAlerts.Time

/-- A site where winners are held by those who evaluated messages. Whoever holds the lock has come
so far with the handling of a winner; there is a refresh for every number. -/
structure Scene where
  site : Site
  refreshes : Nat → Activity (Except Failure Book)
  held : List Rule
  holder : Option (Rule × Activity (Option Transition))

namespace Scene

/-- The rule that wins on a message. -/
def winner? (m : Message) (book : Book) : Option Rule :=
  match m.deviceId.asKey with
  | .error _ => none
  | .ok deviceId => (scan (body m) (book.rulesOf deviceId)).2

theorem known_of_winner? {site : Site} {attempts : Attempts} {past : List Tag} {mark : Int}
    (h : Ledger site attempts past mark) {m : Message} {r : Rule}
    (hr : winner? m site.rules.snapshot = some r) : Known past r := by
  unfold winner? at hr
  split at hr
  · cases hr
  · exact h.known_of_rulesOf (mem_of_winner hr)

/-- Who goes on next. -/
inductive Choice
  /-- A message is evaluated against the rules in force. -/
  | evaluate (m : Message)
  /-- A winner that is held is brought in to be handled. -/
  | enter (n : Nat)
  /-- Whoever holds the lock asks a question, or returns it with an answer. -/
  | act (x : Chance)
  /-- A refresh asks a question, which may fail. -/
  | refresh (n : Nat) (x : Chance)

/-- Nobody enters while the lock is taken. -/
def next (s : Scene) : Choice → Scene × Option Reaction
  | .evaluate m =>
    ({ s with held := s.held ++ (winner? m s.site.rules.snapshot).toList }, none)
  | .enter n =>
    match s.holder, s.held[n]? with
    | none, some r => ({ s with holder := some (r, handle r) }, none)
    | _, _ => (s, none)
  | .act x =>
    match s.holder with
    | none => (s, none)
    | some (r, .done transition) => ({ s with holder := none }, some ⟨r.tag, transition⟩)
    | some (r, .ask c rest) =>
      let (answer, site) := s.site.answer { x with fault := none } c
      ({ s with site, holder := some (r, rest answer) }, none)
  | .refresh n x =>
    match s.refreshes n with
    | .done _ => (s, none)
    | .ask c rest =>
      let (answer, site) := s.site.answer x c
      ({ s with site, refreshes := Function.update s.refreshes n (rest answer) }, none)

/-- Nobody holds a winner and no refresh has begun. -/
def start (site : Site) : Scene := ⟨site, fun _ => refreshRules, [], none⟩

/-- The reactions, in the order in which the lock was returned. -/
def reactions (s : Scene) (choices : List Choice) : List Reaction :=
  (Course.events next s choices).filterMap id

/-! ### Order -/

/-- The lock is free and the rules in force are those of the stored tags, or whoever holds it does
their duty, beginning with the tags that all the others left behind. -/
inductive Guarded (first : List Tag) (handled : List Reaction) (site : Site) (attempts : Attempts)
    (past : List Tag) (mark : Int) : Option (Rule × Activity (Option Transition)) → Prop
  | free (history : History first handled site.rows) (fresh : mark < site.rules.published) :
      Guarded first handled site attempts past mark none
  | taken {r : Rule} {program : Activity (Option Transition)} {before : List Tag} {stage : Stage}
      (history : History first handled before) (known : Known past r)
      (keeps : program.Keeps (duty r before) (done r before) stage)
      (fits : stage.Fits before site attempts mark) :
      Guarded first handled site attempts past mark (some (r, program))

/-- What is true at any time of a scene that began with some tags, after some reactions. -/
structure Ordered (first : List Tag) (handled : List Reaction) (s : Scene) (attempts : Attempts)
    (past : List Tag) (mark : Int) : Prop where
  ledger : Ledger s.site attempts past mark
  peruses : ∀ n, Peruses (s.refreshes n)
  honest : ∀ n, Part.rules.Honest (s.refreshes n) (attempts (some n))
  known : ∀ r ∈ s.held, Known past r
  guarded : Guarded first handled s.site attempts past mark s.holder

variable {first : List Tag} {handled : List Reaction} {s : Scene} {attempts : Attempts}
  {past : List Tag} {mark : Int}

theorem Guarded.history {holder : Option (Rule × Activity (Option Transition))}
    (h : Guarded first handled s.site attempts past mark holder) :
    ∃ last, History first handled last := by
  cases h with
  | free history _ => exact ⟨_, history⟩
  | taken history _ _ _ => exact ⟨_, history⟩

namespace Ordered

theorem evaluate (h : Ordered first handled s attempts past mark) (m : Message) :
    Ordered first handled (s.next (.evaluate m)).1 attempts past mark := by
  refine ⟨h.ledger, h.peruses, h.honest, fun r hr => ?_, h.guarded⟩
  rcases List.mem_append.mp hr with hr | hr
  · exact h.known r hr
  · exact known_of_winner? h.ledger (Option.mem_toList.mp hr)

theorem enter (h : Ordered first handled s attempts past mark) (n : Nat) :
    Ordered first handled (s.next (.enter n)).1 attempts past mark := by
  have hguarded := h.guarded
  simp only [next]
  split
  · next r hfree hheld =>
    rw [hfree] at hguarded
    cases hguarded with
    | free history fresh =>
      have hknown := h.known r (List.mem_of_getElem? hheld)
      have hkeeps := keeps_handle (h.ledger.sincere hknown) fun t ht =>
        h.ledger.loadable t (h.ledger.stored t ht)
      exact ⟨h.ledger, h.peruses, h.honest, h.known, .taken history hknown hkeeps ⟨rfl, fresh⟩⟩
  · exact h

/-- Whoever holds the lock asks what their duty permits, or has done it. -/
theorem act (h : Ordered first handled s attempts past mark) (x : Chance) :
    ∃ attempts' past' mark',
      Ordered first (handled ++ (s.next (.act x)).2.toList) (s.next (.act x)).1 attempts' past'
        mark' := by
  have hguarded := h.guarded
  simp only [next]
  split
  · next hfree =>
    rw [Option.toList_none, List.append_nil]
    exact ⟨attempts, past, mark, h⟩
  · next r transition hholder =>
    rw [hholder] at hguarded
    cases hguarded with
    | taken history known keeps fits =>
      obtain ⟨heffect, fresh⟩ := fits.leave keeps
      exact ⟨attempts, past, mark, h.ledger, h.peruses, h.honest, h.known,
        .free (history.append (.cons heffect (.nil _))) fresh⟩
  · next r c rest hholder =>
    rw [hholder] at hguarded
    cases hguarded with
    | taken history known keeps fits =>
      obtain ⟨hreckoned, attempts', past', mark', hledger, hfits, hkept, hothers⟩ :=
        h.ledger.act fits known (x := { x with fault := none }) rfl keeps.1
      rw [Option.toList_none, List.append_nil]
      refine ⟨attempts', past', mark', hledger, h.peruses, fun n => ?_,
        fun other hother => (h.known other hother).mono hkept,
        .taken history (known.mono hkept) (keeps.2 _ hreckoned) hfits⟩
      rw [hothers n]
      exact h.honest n

/-- A refresh leaves the tags as they are, and what it publishes was read above the mark or is
discarded. -/
theorem refresh (h : Ordered first handled s attempts past mark) (n : Nat) (x : Chance) :
    ∃ attempts', Ordered first handled (s.next (.refresh n x)).1 attempts' past mark := by
  simp only [next]
  cases hn : s.refreshes n with
  | done a => exact ⟨attempts, h⟩
  | ask c rest =>
    have hperuses := h.peruses n
    have hhonest := h.honest n
    rw [hn] at hperuses hhonest
    have hrows : (s.site.answer x c).2.rows = s.site.rows :=
      s.site.contents_answer x hperuses.1 .rules
    have hpublished : s.site.rules.published ≤ (s.site.answer x c).2.rules.published := by
      have hcache := s.site.cache_answer x c .rules
      exact Int.le_trans (Cache.published_le_moved (s.site.cache .rules) _)
        (Int.le_of_eq (congrArg Cache.published hcache.symm))
    refine ⟨_, h.ledger.answer (i := some n) hperuses.1 hhonest.1, ?_, ?_, h.known, ?_⟩
    · exact (Function.forall_update_iff _ fun _ => Peruses).mpr
        ⟨hperuses.2 _ trivial, fun j _ => h.peruses j⟩
    · refine (Function.forall_update_iff _ fun j program =>
        Part.rules.Honest program (Function.update attempts (some n) _ (some j))).mpr
        ⟨?_, fun j hj => ?_⟩
      · rw [Function.update_self]
        exact hhonest.2 _ trivial
      · rw [Function.update_of_ne fun heq => hj (Option.some.inj heq)]
        exact h.honest j
    · have hguarded := h.guarded
      revert hguarded
      generalize s.holder = holder
      rintro (⟨history, fresh⟩ | ⟨history, known, keeps, fits⟩)
      · rw [← hrows] at history
        exact .free history (Int.lt_of_lt_of_le fresh hpublished)
      · exact .taken history known keeps
          (fits.mono hrows hpublished (Function.update_of_ne (Option.some_ne_none n).symm _ _))

theorem next (h : Ordered first handled s attempts past mark) (choice : Choice) :
    ∃ attempts' past' mark',
      Ordered first (handled ++ (s.next choice).2.toList) (s.next choice).1 attempts' past'
        mark' := by
  cases choice with
  | evaluate m =>
    rw [show (s.next (.evaluate m)).2 = none from rfl, Option.toList_none, List.append_nil]
    exact ⟨attempts, past, mark, h.evaluate m⟩
  | enter n =>
    have hsilent : (s.next (.enter n)).2 = none := by
      simp only [Scene.next]
      split <;> rfl
    rw [hsilent, Option.toList_none, List.append_nil]
    exact ⟨attempts, past, mark, h.enter n⟩
  | act x => exact h.act x
  | refresh n x =>
    have hsilent : (s.next (.refresh n x)).2 = none := by
      simp only [Scene.next]
      cases s.refreshes n <;> rfl
    obtain ⟨attempts', hnext⟩ := h.refresh n x
    rw [hsilent, Option.toList_none, List.append_nil]
    exact ⟨attempts', past, mark, hnext⟩

theorem after (h : Ordered first handled s attempts past mark) (choices : List Choice) :
    ∃ attempts' past' mark', Ordered first (handled ++ s.reactions choices)
      (Course.after Scene.next s choices) attempts' past' mark' := by
  induction choices generalizing s handled attempts past mark with
  | nil =>
    rw [show s.reactions [] = [] from rfl, List.append_nil]
    exact ⟨attempts, past, mark, h⟩
  | cons choice rest ih =>
    obtain ⟨_, _, _, hnext⟩ := h.next choice
    have hreactions : s.reactions (choice :: rest) =
        (s.next choice).2.toList ++ (s.next choice).1.reactions rest := by
      unfold reactions
      rw [Course.events_cons, List.filterMap_cons]
      cases (s.next choice).2 <;> rfl
    rw [hreactions, ← List.append_assoc]
    exact ih hnext

theorem start {site : Site} (numbered : site.store.tags.Numbered)
    (unrepeated : Unrepeated site.rows) (inOrder : site.rules.published ≤ site.rules.issued)
    (loaded : ∃ now, Book.ofTags site.rows now = .ok site.rules.snapshot) :
    Ordered site.rows [] (Scene.start site) (fun _ => none) site.rows (site.rules.published - 1) :=
  ⟨.start numbered unrepeated inOrder loaded, fun _ => peruses_refreshRules,
    fun _ => Part.honest_refreshRules .rules none, nofun,
    .free (.nil _) (Int.sub_one_lt_of_le (Int.le_refl _))⟩

end Ordered

/-! ### One all-clear at a time -/

/-- No two all-clears of one concern are ever stored, and from a creation to the next deletion every
trip of the concern finds its all-clear. -/
theorem all_clear_found_until_deleted {site : Site} (reachable : site.store.Reachable)
    (unrepeated : Unrepeated site.rows) (inOrder : site.rules.published ≤ site.rules.issued)
    (loaded : ∃ now, Book.ofTags site.rows now = .ok site.rules.snapshot)
    (choices : List Choice) :
    Unrepeated (Course.after next (start site) choices).site.rows ∧
      ∀ (c : Concern) (before between later : List Reaction) (creation e : Reaction),
        (start site).reactions choices = before ++ creation :: between ++ e :: later →
        creation.creates c = true → (∀ other ∈ between, other.deletes c = false) →
        e.trips c = true → e.transition = some .alreadyArmed := by
  obtain ⟨_, _, _, hordered⟩ :=
    (Ordered.start reachable.numbered unrepeated inOrder loaded).after choices
  refine ⟨hordered.ledger.unrepeated, fun c before between later creation e split created kept
    tripped => ?_⟩
  obtain ⟨last, history⟩ := hordered.guarded.history
  rw [List.nil_append, split] at history
  exact history.armed_between unrepeated created kept tripped

/-- Two callers evaluate the same message. A refresh that begins before the first of them acts
publishes after its all-clear has been stored, and is discarded; the second one acts after that. -/
def contended : List Choice :=
  let x := Chance.calm ⟨0, none⟩
  .evaluate (Setting.reading "9") :: .evaluate (Setting.reading "9") :: .refresh 0 x ::
    .refresh 0 x :: .enter 0 :: List.replicate 8 (.act x) ++ List.replicate 3 (.refresh 0 x) ++
    [.enter 1, .act x, .act x]

theorem all_clear_found_until_deleted_contended : ∃ creation e : Reaction,
    (start (Setting.warned.run refreshRules).2.site).reactions contended = [creation, e] ∧
      creation.transition = some .created ∧ e.transition = some .alreadyArmed := by
  have hunrepeated : Unrepeated (Setting.warned.run refreshRules).2.site.rows := by
    refine .cons (fun t _ h => ?_) (List.pairwise_singleton _ _)
    exact absurd h.1 (by decide)
  obtain ⟨-, found⟩ := @all_clear_found_until_deleted (Setting.warned.run refreshRules).2.site
    Setting.reachable_warned hunrepeated (Int.le_refl _) ⟨⟨0, none⟩, rfl⟩ contended
  exact ⟨_, _, rfl, rfl, found Setting.relief [] [] [] _ _ rfl (by decide +kernel) nofun
    (by decide +kernel)⟩

end Scene

end DeviceAlerts
