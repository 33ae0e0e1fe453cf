import DeviceAlerts.Proofs.Tag.Twins

/-! Devices do not interfere. From a steady setting on, messages are classified and tags are edited
for many devices. The run in which everything for other devices is left out comes to the same for
the messages of one device and leaves it with the same tags: only the numbers of its tags are
others, and they are in the same order. -/

namespace DeviceAlerts.Monitor.Isolation

open DeviceAlerts.Time

/-! ### Runs -/

inductive Choice
  /-- A message is classified. -/
  | message (m : Message)
  /-- An edit with the refresh that follows it. -/
  | edit (e : Edit)

/-- A message and what came of it. -/
structure Answered where
  message : Message
  answer : Except Failure Outcome

def next (s : Setting) : Choice → Setting × Option Answered
  | .message m => ((s.run (classify m)).2, some ⟨m, (s.run (classify m)).1⟩)
  | .edit e => ((Setting.run (s.run (askStore e.call)).2 refreshRules).2, none)

/-- What came of the messages of a device. -/
def answers (d : Int) (events : List (Option Answered)) : List (Except Failure Outcome) :=
  events.filterMap fun e => (e.filter (·.message.deviceId = .int d)).map (·.answer)

namespace Choice

def isForeign (d : Int) (rows : List Tag) : Choice → Bool
  | message m => m.deviceId ≠ .int d
  | edit e => e.isForeign d rows

def renumbered (f : Int → Int) : Choice → Choice
  | message m => message m
  | edit e => edit (e.renumbered f)

def Proper : Choice → Prop
  | message m => ∃ i : Int, m.deviceId = .int i
  | edit e => e.Proper

theorem Proper.renumbered (f : Int → Int) {c : Choice} (h : c.Proper) :
    (c.renumbered f).Proper := by
  cases c with
  | message m => exact h
  | edit e => exact Edit.Proper.renumbered f h

def KeepsDevice (rows : List Tag) : Choice → Prop
  | message _ => True
  | edit e => e.KeepsDevice rows

/-- What becomes of the tags. -/
def deed? (book : Book) : Choice → Option Edit
  | message m => (Setting.calledFor m book).edit?
  | edit e => some e

end Choice

/-- No update in a run gives a tag to another device. -/
def KeepsDevices (s : Setting) : List Choice → Prop
  | [] => True
  | c :: rest => c.KeepsDevice s.rows ∧ KeepsDevices (next s c).1 rest

/-- What is left of a run without what is for other devices, under other numbers. -/
def own (d : Int) (f : Int → Int) (s : Setting) : List Choice → List Choice
  | [] => []
  | c :: rest =>
    if c.isForeign d s.rows then own d f (next s c).1 rest
    else c.renumbered f :: own d f (next s c).1 rest

/-- The numbers that tags of a device have in the course of a run. -/
def numbers (d : Int) (s : Setting) : List Choice → List Datum
  | [] => (ofDevice d s.rows).map (·.id)
  | c :: rest => (ofDevice d s.rows).map (·.id) ++ numbers d (next s c).1 rest

/-! ### Single steps -/

variable {d : Int} {f : Int → Int} {s t : Setting}

theorem steady_next (h : s.Steady) {c : Choice} (proper : c.Proper) :
    (next s c).1.Steady ∧ ∃ now, (next s c).1.site.store.tags =
      Setting.edited s.site.store.tags now (c.deed? s.site.rules.snapshot) := by
  cases c with
  | message m =>
    obtain ⟨i, hi⟩ := proper
    obtain ⟨-, hsteady, htags⟩ := h.classify (m := m) (by rw [hi]; rfl)
    exact ⟨hsteady, htags⟩
  | edit e =>
    obtain ⟨-, hsheltered, htags⟩ := h.toSheltered.edit proper
    obtain ⟨_, -, hsteady, hstore⟩ := hsheltered.refresh
    exact ⟨hsteady, _, (congrArg Store.tags hstore).trans htags⟩

/-- A message calls for an all-clear for its device or takes one of the tags of its device away. -/
theorem of_calledFor (h : s.Steady) {m : Message} {i : Int} (hm : m.deviceId = .int i) {e : Edit}
    (he : (Setting.calledFor m s.site.rules.snapshot).edit? = some e) :
    (∃ draft, e = .create draft ∧ e.Proper ∧ draft.deviceId = .int i) ∨
      ∃ u ∈ ofDevice i s.rows, e = .delete u.id := by
  obtain ⟨now, hbook⟩ := h.loaded
  unfold Setting.calledFor at he
  cases hwinner : (scan (body m) (s.site.rules.snapshot.rulesOf m.deviceId)).2 with
  | none =>
    rw [hwinner] at he
    cases he
  | some r =>
    have member := mem_of_winner hwinner
    rw [hm, rulesOf_ofDevice h.tags.sound hbook, List.mem_filterMap] at member
    obtain ⟨u, hu, hrule⟩ := member
    obtain ⟨rfl, -⟩ := Tag.compile_eq_ok.mp (Tag.rule?_eq_some.mp hrule)
    obtain ⟨stored, hdevice⟩ := mem_ofDevice.mp hu
    rw [hwinner, Option.map_some, Option.getD_some] at he
    cases hplan : plan r s.site.rules.snapshot with
    | ignore | settled _ =>
      rw [hplan] at he
      cases he
    | delete id =>
      obtain ⟨rfl, -, -⟩ := of_plan_delete hplan
      rw [hplan] at he
      exact .inr ⟨r.tag, hu, (Option.some.inj he).symm⟩
    | create draft =>
      obtain ⟨rfl, -, -, -⟩ := of_plan_create hplan
      rw [hplan] at he
      obtain rfl := Option.some.inj he
      exact .inl ⟨_, rfl,
        ⟨(h.tags.sound.typed r.tag stored).recovery, h.tags.bearable r.tag stored⟩, hdevice⟩

/-- What becomes of the tags is an edit that is proper, keeps the devices of tags, and is foreign
where the choice is. -/
theorem of_deed (h : s.Steady) {c : Choice} (proper : c.Proper) (keeps : c.KeepsDevice s.rows)
    {e : Edit} (he : c.deed? s.site.rules.snapshot = some e) :
    e.Proper ∧ e.KeepsDevice s.rows ∧
      (c.isForeign d s.rows = true → e.isForeign d s.rows = true) ∧
      (c.isForeign d s.rows = false → ∀ draft, e = .create draft → draft.deviceId = .int d) := by
  cases c with
  | edit other =>
    obtain rfl := Option.some.inj he
    refine ⟨proper, keeps, id, fun foreign draft same => ?_⟩
    subst same
    simpa [Choice.isForeign, Edit.isForeign] using foreign
  | message m =>
    obtain ⟨i, hi⟩ := proper
    have foreign_iff : Choice.isForeign d s.rows (.message m) = decide (i ≠ d) := by
      simp [Choice.isForeign, hi]
    rw [foreign_iff, decide_eq_true_iff, decide_eq_false_iff_not, not_not]
    rcases of_calledFor h hi he with ⟨draft, rfl, hproper, hdevice⟩ | ⟨u, hu, rfl⟩
    · refine ⟨hproper, trivial, fun other => ?_, ?_⟩
      · simpa [Edit.isForeign, hdevice] using other
      · rintro rfl _ ⟨⟩
        exact hdevice
    · obtain ⟨stored, hdevice⟩ := mem_ofDevice.mp hu
      refine ⟨(h.tags.sound.typed u stored).id, trivial, fun other => ?_, nofun⟩
      exact List.any_eq_true.mpr ⟨u, stored, by simpa [hdevice] using other⟩

/-! ### Numbers -/

/-- The number that an edit gives to a tag of the device. -/
def gives? (d : Int) (nextId : Int) : Edit → Option Int
  | .create draft => if draft.deviceId = .int d then some nextId else none
  | .update _ _ | .delete _ => none

/-- The number that a tag of the device is given on account of a choice. -/
def given? (d : Int) (s : Setting) (c : Choice) : Option Int :=
  (c.deed? s.site.rules.snapshot).bind (gives? d s.site.store.tags.nextId)

def given (d : Int) (s : Setting) : List Choice → List Int
  | [] => []
  | c :: rest => (given? d s c).toList ++ given d (next s c).1 rest

section

variable {tags : Store.Tags} {now : Moment} {e : Edit}

theorem nextId_update (id : Datum) (changes : List TagChange) :
    (tags.update now id changes).2.nextId = tags.nextId := by
  simp only [Store.Tags.update]
  split
  · rfl
  · cases id.readInteger with
    | error failure => rfl
    | ok i =>
      dsimp only
      cases tags.find? i <;> rfl

theorem nextId_delete (id : Datum) : (tags.delete id).2.nextId = tags.nextId := by
  unfold Store.Tags.delete
  cases id.readInteger <;> rfl

theorem nextId_le_after : tags.nextId ≤ (e.after now tags).nextId := by
  cases e with
  | create draft => exact Int.le_add_one (Int.le_refl _)
  | update id changes => exact (nextId_update id changes).ge
  | delete id => exact (nextId_delete id).ge

theorem of_gives? {i : Int} (h : gives? d tags.nextId e = some i) :
    i = tags.nextId ∧ (e.after now tags).nextId = tags.nextId + 1 := by
  cases e with
  | create draft =>
    simp only [gives?, Option.ite_none_right_eq_some, Option.some.injEq] at h
    exact ⟨h.2.symm, rfl⟩
  | update | delete => cases h

/-- An edit that is not for others gives as many numbers as it uses up. -/
theorem nextId_after_renumbered (own : ∀ draft, e = .create draft → draft.deviceId = .int d)
    (n : Int) : ((e.renumbered f).after now tags).nextId =
      tags.nextId + (gives? d n e).toList.length := by
  cases e with
  | create draft =>
    rw [gives?, if_pos (own draft rfl)]
    rfl
  | update id changes =>
    exact (nextId_update _ changes).trans (Int.add_zero _).symm
  | delete id => exact (nextId_delete _).trans (Int.add_zero _).symm

/-- A tag of the device had its number before or is given it. -/
theorem id_of_mem_after (numbered : tags.Numbered) (proper : e.Proper)
    (keeps : e.KeepsDevice tags.rows) {u : Tag} (hu : u ∈ ofDevice d (e.after now tags).rows) :
    (∃ t ∈ ofDevice d tags.rows, t.id = u.id) ∨
      ∃ i, gives? d tags.nextId e = some i ∧ u.id = .int i := by
  cases e with
  | create draft =>
    rw [Edit.after, Edit.ofDevice_create, List.mem_append] at hu
    rcases hu with hu | hu
    · exact .inl ⟨u, hu, rfl⟩
    · split at hu
      · next hdevice =>
        obtain rfl := List.mem_singleton.mp hu
        exact .inr ⟨_, if_pos hdevice, rfl⟩
      · cases hu
  | update id changes =>
    obtain ⟨⟨i, rfl⟩, -⟩ := proper
    rw [Edit.after, Edit.ofDevice_update numbered keeps, List.mem_map] at hu
    obtain ⟨t, ht, rfl⟩ := hu
    refine .inl ⟨t, ht, ?_⟩
    split
    · exact (Store.Tags.id_revised now changes t).symm
    · rfl
  | delete id =>
    obtain ⟨i, rfl⟩ := proper
    rw [Edit.after, Edit.ofDevice_delete] at hu
    exact .inl ⟨u, (List.mem_filter.mp hu).1, rfl⟩

end

/-! ### Both runs -/

/-- The tags of the device are the same, and no other tag is stored under a number that is used for
them. -/
structure Aligned (d : Int) (f : Int → Int) (tags others : Store.Tags) : Prop where
  twins : List.Forall₂ (Tag.Twin f) (ofDevice d tags.rows) (ofDevice d others.rows)
  strangers : ∀ u ∈ others.rows, u.deviceId ≠ .int d → ∀ i, u.id ≠ .int (f i)

namespace Aligned

variable {tags others : Store.Tags} {now later : Moment} {e : Edit}

theorem exists_twin (h : Aligned d f tags others) {u : Tag} (hu : u ∈ ofDevice d others.rows) :
    ∃ t ∈ ofDevice d tags.rows, t.Twin f u := by
  have twins := h.twins
  generalize ofDevice d tags.rows = first at twins
  generalize ofDevice d others.rows = second at twins hu
  induction twins with
  | nil => cases hu
  | cons twin _ ih =>
    rcases List.mem_cons.mp hu with rfl | hu
    · exact ⟨_, List.mem_cons_self, twin⟩
    · obtain ⟨t, ht, htwin⟩ := ih hu
      exact ⟨t, List.mem_cons_of_mem _ ht, htwin⟩

/-- An update that leaves the tags of one side with their device does so on the other side. -/
theorem keepsDevice (h : Aligned d f tags others) (inj : f.Injective) (proper : e.Proper)
    (keeps : e.KeepsDevice tags.rows) : (e.renumbered f).KeepsDevice others.rows := by
  cases e with
  | create | delete => exact trivial
  | update id changes =>
    obtain ⟨⟨i, rfl⟩, -⟩ := proper
    intro u hu hid
    by_cases hdevice : u.deviceId = .int d
    · obtain ⟨t, ht, twin⟩ := h.exists_twin (mem_ofDevice.mpr ⟨hu, hdevice⟩)
      have kept := keeps t (mem_ofDevice.mp ht).1 ((twin.id_eq_iff inj i).mpr hid)
      rw [twin.deviceId, ← kept]
      exact congrArg TagDraft.deviceId (TagChange.draft_applyAll twin.draft changes)
    · exact absurd hid (h.strangers u hu hdevice i)

theorem foreign (h : Aligned d f tags others) (numbered : tags.Numbered) (proper : e.Proper)
    (keeps : e.KeepsDevice tags.rows) (foreign : e.isForeign d tags.rows = true) :
    Aligned d f (e.after now tags) others := by
  refine ⟨?_, h.strangers⟩
  rw [Edit.ofDevice_after_of_foreign numbered proper keeps foreign]
  exact h.twins

theorem renumbered (h : Aligned d f tags others) (inj : f.Injective) (numbered : tags.Numbered)
    (numbered' : others.Numbered) (proper : e.Proper) (keeps : e.KeepsDevice tags.rows)
    (own : ∀ draft, e = .create draft → draft.deviceId = .int d)
    (given : ∀ i, gives? d tags.nextId e = some i → f i = others.nextId) :
    Aligned d f (e.after now tags) ((e.renumbered f).after later others) := by
  have keeps' := h.keepsDevice inj proper keeps
  refine ⟨Edit.twins_after inj h.twins numbered numbered' proper keeps keeps' ?_, ?_⟩
  · rintro draft rfl
    exact given _ (if_pos (own draft rfl))
  · intro u hu hdevice
    cases e with
    | create draft =>
      rcases List.mem_append.mp hu with hu | hu
      · exact h.strangers u hu hdevice
      · obtain rfl := List.mem_singleton.mp hu
        exact absurd (own draft rfl) hdevice
    | update id changes =>
      obtain ⟨⟨i, rfl⟩, -⟩ := proper
      change u ∈ (others.update later (.int (f i)) changes).2.rows at hu
      rw [Store.Tags.rows_update numbered'] at hu
      obtain ⟨v, hv, rfl⟩ := List.mem_map.mp hu
      split at hdevice
      · next hid =>
        rw [Edit.deviceId_revised keeps' hv hid] at hdevice
        exact absurd hid (h.strangers v hv hdevice i)
      · next hid =>
        rw [if_neg hid]
        exact h.strangers v hv hdevice
    | delete id => exact h.strangers u ((others.sublist_delete _).subset hu) hdevice

end Aligned

theorem answers_cons (e : Option Answered) (rest : List (Option Answered)) :
    answers d (e :: rest) = answers d [e] ++ answers d rest :=
  @List.filterMap_append _ _ [e] rest _

section

variable {c : Choice} (hs : s.Steady)
  (aligned : Aligned d f s.site.store.tags t.site.store.tags) (proper : c.Proper)
  (keeps : c.KeepsDevice s.rows)

include hs aligned proper keeps

/-- What is for other devices does not show. -/
theorem next_foreign (foreign : c.isForeign d s.rows = true) :
    Aligned d f (next s c).1.site.store.tags t.site.store.tags ∧ given? d s c = none ∧
      answers d [(next s c).2] = [] := by
  obtain ⟨-, now, htags⟩ := steady_next hs proper
  have hanswers : answers d [(next s c).2] = [] := by
    cases c with
    | edit e => rfl
    | message m =>
      have hother : m.deviceId ≠ .int d := of_decide_eq_true foreign
      simp [answers, next, hother]
  rw [htags]
  unfold given?
  cases hdeed : c.deed? s.site.rules.snapshot with
  | none => exact ⟨aligned, rfl, hanswers⟩
  | some e =>
    obtain ⟨hproper, hkeeps, hforeign, -⟩ := of_deed (d := d) hs proper keeps hdeed
    refine ⟨aligned.foreign hs.tags.sound.numbered hproper hkeeps (hforeign foreign), ?_, hanswers⟩
    have hother := hforeign foreign
    cases e with
    | create draft => exact if_neg (of_decide_eq_true hother)
    | update | delete => rfl

/-- What is for the device is answered in the same way, and leaves the same tags. -/
theorem next_own (ht : t.Steady) (inj : f.Injective) (own : c.isForeign d s.rows = false)
    (given : ∀ i, given? d s c = some i → f i = t.site.store.tags.nextId) :
    Aligned d f (next s c).1.site.store.tags (next t (c.renumbered f)).1.site.store.tags ∧
      (next t (c.renumbered f)).1.site.store.tags.nextId =
        t.site.store.tags.nextId + (given? d s c).toList.length ∧
      ∃ outcomes : List Outcome, answers d [(next s c).2] = outcomes.map .ok ∧
        answers d [(next t (c.renumbered f)).2] = (outcomes.map (·.renumbered f)).map .ok := by
  obtain ⟨now, hbook⟩ := hs.loaded
  obtain ⟨now', hbook'⟩ := ht.loaded
  obtain ⟨-, _, htags⟩ := steady_next hs proper
  obtain ⟨-, _, htags'⟩ := steady_next ht (proper.renumbered f)
  have hdeed' : (c.renumbered f).deed? t.site.rules.snapshot =
      (c.deed? s.site.rules.snapshot).map (Edit.renumbered f) := by
    cases c with
    | edit e => rfl
    | message m =>
      have hm : m.deviceId = .int d := by simpa [Choice.isForeign] using own
      have called := (calledFor_twins aligned.twins hs.tags.sound ht.tags.sound hbook hbook' inj
        hm).2
      exact (congrArg Plan.edit? called).trans (Plan.edit?_renumbered f _)
  rw [htags, htags', hdeed', ← and_assoc]
  refine ⟨?_, ?_⟩
  · unfold given? at given ⊢
    cases hdeed : c.deed? s.site.rules.snapshot with
    | none => exact ⟨aligned, (Int.add_zero _).symm⟩
    | some e =>
      rw [hdeed] at given
      obtain ⟨hproper, hkeeps, -, hown⟩ := of_deed (d := d) hs proper keeps hdeed
      exact ⟨aligned.renumbered inj hs.tags.sound.numbered ht.tags.sound.numbered hproper hkeeps
        (hown own) given, nextId_after_renumbered (hown own) _⟩
  · cases c with
    | edit e => exact ⟨[], rfl, rfl⟩
    | message m =>
      have hm : m.deviceId = .int d := by simpa [Choice.isForeign] using own
      have keyed : m.deviceId.asKey = .ok m.deviceId := by
        rw [hm]
        rfl
      obtain ⟨winners, called⟩ := calledFor_twins aligned.twins hs.tags.sound ht.tags.sound hbook
        hbook' inj hm
      have answered (s : Setting) (answer : Except Failure Outcome)
          (h : (s.run (classify m)).1 = answer) :
          answers d [(next s (.message m)).2] = [answer] := by
        simp [answers, next, hm, h]
      refine ⟨[_], answered s _ (hs.classify keyed).1,
        (answered t _ (ht.classify keyed).1).trans ?_⟩
      rw [called, Plan.transition?_renumbered]
      generalize (scan (body m) (s.site.rules.snapshot.rulesOf m.deviceId)).2 = winner at winners
      generalize (scan (body m) (t.site.rules.snapshot.rulesOf m.deviceId)).2 = twin at winners
      cases winners with
      | none => rfl
      | some twin => exact congrArg (fun o => [Except.ok o]) (verdict_twin twin m _)

end

/-- Both runs side by side. -/
theorem aligned_own (inj : f.Injective) (hs : s.Steady) (ht : t.Steady)
    (aligned : Aligned d f s.site.store.tags t.site.store.tags) {choices : List Choice}
    (proper : ∀ c ∈ choices, c.Proper) (keeps : KeepsDevices s choices)
    (tracks : Numbering.Tracks f t.site.store.tags.nextId (given d s choices)) :
    Aligned d f (Course.after next s choices).site.store.tags
        (Course.after next t (own d f s choices)).site.store.tags ∧
      ∃ outcomes : List Outcome,
        answers d (Course.events next s choices) = outcomes.map .ok ∧
        answers d (Course.events next t (own d f s choices)) =
          (outcomes.map (·.renumbered f)).map .ok := by
  induction choices generalizing s t with
  | nil => exact ⟨aligned, [], rfl, rfl⟩
  | cons c rest ih =>
    obtain ⟨hproper, hrest⟩ := List.forall_mem_cons.mp proper
    obtain ⟨hkeeps, hkept⟩ := keeps
    have hsteady := (steady_next hs hproper).1
    rw [Course.after_cons, Course.events_cons, answers_cons]
    cases foreign : c.isForeign d s.rows with
    | true =>
      obtain ⟨haligned, hgiven, hanswers⟩ := next_foreign hs aligned hproper hkeeps foreign
      rw [given, hgiven] at tracks
      rw [own, if_pos foreign, hanswers]
      exact ih hsteady ht haligned hrest hkept tracks
    | false =>
      have hgiven : ∀ i, given? d s c = some i → f i = t.site.store.tags.nextId := by
        intro i hi
        rw [given, hi] at tracks
        exact tracks.1
      obtain ⟨haligned, hnext, outcomes, hanswers, hanswers'⟩ :=
        next_own hs aligned hproper hkeeps ht inj foreign hgiven
      have hlater : Numbering.Tracks f (next t (c.renumbered f)).1.site.store.tags.nextId
          (given d (next s c).1 rest) := by
        rw [hnext]
        rw [given] at tracks
        cases hi : given? d s c with
        | none =>
          rw [hi] at tracks
          exact (Int.add_zero _).symm ▸ tracks
        | some i =>
          rw [hi] at tracks
          exact tracks.2
      obtain ⟨hafter, others, hfirst, hsecond⟩ :=
        ih hsteady (steady_next ht (hproper.renumbered f)).1 haligned hrest hkept hlater
      rw [own, if_neg (Bool.eq_false_iff.mp foreign), Course.after_cons, Course.events_cons,
        answers_cons (next t (c.renumbered f)).2]
      refine ⟨hafter, outcomes ++ others, ?_, ?_⟩
      · rw [hanswers, hfirst, List.map_append]
      · rw [hanswers', hsecond, List.map_append, List.map_append]

/-! ### Numbers in the course of a run -/

theorem nextId_le_next (h : s.Steady) {c : Choice} (proper : c.Proper) :
    s.site.store.tags.nextId ≤ (next s c).1.site.store.tags.nextId := by
  obtain ⟨-, now, htags⟩ := steady_next h proper
  rw [htags]
  cases c.deed? s.site.rules.snapshot with
  | none => exact Int.le_refl _
  | some e => exact nextId_le_after

theorem of_given? (h : s.Steady) {c : Choice} (proper : c.Proper) {i : Int}
    (hi : given? d s c = some i) : i = s.site.store.tags.nextId ∧
      (next s c).1.site.store.tags.nextId = s.site.store.tags.nextId + 1 := by
  obtain ⟨-, now, htags⟩ := steady_next h proper
  obtain ⟨e, hdeed, hgives⟩ := Option.bind_eq_some_iff.mp hi
  rw [htags, hdeed]
  exact of_gives? hgives

/-- Numbers that are given are given in ascending order. -/
theorem sorted_given (h : s.Steady) {choices : List Choice} (proper : ∀ c ∈ choices, c.Proper) :
    (∀ i ∈ given d s choices, s.site.store.tags.nextId ≤ i) ∧
      (given d s choices).Pairwise (· < ·) := by
  induction choices generalizing s with
  | nil => exact ⟨nofun, .nil⟩
  | cons c rest ih =>
    obtain ⟨hproper, hrest⟩ := List.forall_mem_cons.mp proper
    obtain ⟨hbound, hsorted⟩ := ih (steady_next h hproper).1 hrest
    have hlater := nextId_le_next h hproper
    rw [given]
    cases hi : given? d s c with
    | none => exact ⟨fun i hi => hlater.trans (hbound i hi), hsorted⟩
    | some i =>
      obtain ⟨rfl, hnext⟩ := of_given? h hproper hi
      rw [hnext] at hbound
      refine ⟨List.forall_mem_cons.mpr ⟨Int.le_refl _, fun i hi => ?_⟩,
        List.pairwise_cons.mpr ⟨fun i hi => ?_, hsorted⟩⟩
      · exact (Int.le_of_lt (Int.lt_add_one_of_le (Int.le_refl _))).trans (hbound i hi)
      · exact Int.lt_of_add_one_le (hbound i hi)

/-- Whether a tag of the device has a number. -/
def IsKept (d : Int) (rows : List Tag) (i : Int) : Prop := ∃ u ∈ ofDevice d rows, u.id = .int i

instance (d : Int) (rows : List Tag) : DecidablePred (IsKept d rows) :=
  fun i => inferInstanceAs (Decidable (∃ u ∈ ofDevice d rows, u.id = .int i))

/-- A tag of the device has a number that one had at first or was given. -/
theorem of_mem_numbers (h : s.Steady) {choices : List Choice} (proper : ∀ c ∈ choices, c.Proper)
    (keeps : KeepsDevices s choices) {i : Int} (hi : .int i ∈ numbers d s choices) :
    IsKept d s.rows i ∨ i ∈ given d s choices := by
  induction choices generalizing s with
  | nil => exact .inl (List.mem_map.mp hi)
  | cons c rest ih =>
    obtain ⟨hproper, hrest⟩ := List.forall_mem_cons.mp proper
    obtain ⟨hkeeps, hkept⟩ := keeps
    obtain ⟨hsteady, now, htags⟩ := steady_next h hproper
    rcases List.mem_append.mp hi with hi | hi
    · exact .inl (List.mem_map.mp hi)
    · rcases ih hsteady hrest hkept hi with ⟨u, hu, hid⟩ | hi
      · rw [Setting.rows, Site.rows, htags] at hu
        cases hdeed : c.deed? s.site.rules.snapshot with
        | none =>
          rw [hdeed] at hu
          exact .inl ⟨u, hu, hid⟩
        | some e =>
          rw [hdeed] at hu
          obtain ⟨hedit, hdevices, -⟩ := of_deed (d := d) h hproper hkeeps hdeed
          rcases id_of_mem_after h.tags.sound.numbered hedit hdevices hu with
            ⟨t, ht, hsame⟩ | ⟨j, hgives, hj⟩
          · exact .inl ⟨t, ht, hsame.trans hid⟩
          · obtain rfl := Datum.int.inj (hid.symm.trans hj)
            have hgiven : given? d s c = some i := by
              rw [given?, hdeed]
              exact hgives
            exact .inr (List.mem_append_left _ (by rw [hgiven]; exact List.mem_singleton_self i))
      · exact .inr (List.mem_append_right _ hi)

/-! ### The two runs compared -/

/-- Both runs begin with the same tags. -/
theorem aligned_packed {tags : Store.Tags} (numbered : tags.Numbered) (counted : List Int) :
    Aligned d (Numbering.packed (IsKept d tags.rows) tags.nextId counted) tags tags := by
  refine ⟨List.forall₂_same.mpr fun u hu => ?_, fun u hu hdevice i hid => ?_⟩
  · obtain ⟨i, -, hid⟩ := numbered.given u (mem_ofDevice.mp hu).1
    have kept : IsKept d tags.rows i := ⟨u, hu, hid⟩
    exact ⟨⟨i, hid, by rw [hid, Numbering.packed_of_kept kept]⟩, rfl⟩
  · by_cases kept : IsKept d tags.rows i
    · rw [Numbering.packed_of_kept kept] at hid
      obtain ⟨v, hv, hsame⟩ := kept
      obtain ⟨stored, hown⟩ := mem_ofDevice.mp hv
      rw [numbered.eq_of_id hu stored (hid.trans hsame.symm)] at hdevice
      exact hdevice hown
    · obtain ⟨j, hlt, hj⟩ := numbered.given u hu
      have := @Numbering.le_packed _ _ tags.nextId counted i kept
      have := Datum.int.inj (hj.symm.trans hid)
      omega

/-- The run in which what is for other devices is left out is no different for a device: its
messages come to the same and its tags are the same in the end, but for the numbers of its tags,
which are in the same order, and for times. -/
theorem answers_own {s t : Setting} (steady : s.Steady) (smooth : t.Smooth)
    (same : t.site = s.site) (d : Int) {choices : List Choice}
    (proper : ∀ c ∈ choices, c.Proper) (keeps : KeepsDevices s choices) :
    ∃ f : Int → Int, f.Injective ∧ StrictMonoOn f {i | .int i ∈ numbers d s choices} ∧
      (∃ outcomes : List Outcome,
        answers d (Course.events next s choices) = outcomes.map .ok ∧
        answers d (Course.events next t (own d f s choices)) =
          (outcomes.map (·.renumbered f)).map .ok) ∧
      List.Forall₂ (Tag.Twin f) (ofDevice d (Course.after next s choices).rows)
        (ofDevice d (Course.after next t (own d f s choices)).rows) := by
  let first := s.site.store.tags.nextId
  have ht : t.Steady := by
    refine ⟨⟨?_, ?_, smooth⟩, ?_⟩
    · exact same.symm ▸ steady.tags
    · exact same.symm ▸ steady.inOrder
    · rw [Setting.rows, same]
      exact steady.loaded
  have below : ∀ i, IsKept d s.rows i → i < first := by
    rintro i ⟨u, hu, hid⟩
    obtain ⟨j, hlt, hj⟩ := steady.tags.sound.numbered.given u (mem_ofDevice.mp hu).1
    obtain rfl := Datum.int.inj (hid.symm.trans hj)
    exact hlt
  obtain ⟨above, sorted⟩ := sorted_given (d := d) steady proper
  let f := Numbering.packed (IsKept d s.rows) first (given d s choices)
  have inj : f.Injective := Numbering.injective_packed below
  have aligned : Aligned d f s.site.store.tags t.site.store.tags := by
    rw [same]
    exact aligned_packed steady.tags.sound.numbered _
  have tracks : Numbering.Tracks f t.site.store.tags.nextId (given d s choices) := by
    rw [same]
    exact Numbering.tracks_packed below above sorted
  obtain ⟨hafter, hanswers⟩ := aligned_own inj steady ht aligned proper keeps tracks
  refine ⟨f, inj, fun i hi j hj hlt => ?_, hanswers, hafter.twins⟩
  exact Numbering.strictMonoOn_packed below above sorted (of_mem_numbers steady proper keeps hi)
    (of_mem_numbers steady proper keeps hj) hlt

theorem sheltered_warned : Setting.warned.Sheltered := by
  have typed : ∀ t ∈ Setting.warned.rows, t.Typed ∧ Condition.Bearable t.condition.regexp := by
    refine List.forall_mem_cons.mpr ⟨⟨?_, nofun⟩, List.forall_mem_singleton.mpr ⟨?_, nofun⟩⟩ <;>
      exact TagDraft.Typed.stored ⟨⟨_, rfl⟩, ⟨_, rfl⟩, ⟨_, rfl⟩, ⟨_, rfl⟩, ⟨_, rfl⟩, ⟨_, rfl⟩,
        ⟨_, rfl⟩, ⟨_, rfl⟩⟩ _ _
  exact ⟨⟨⟨Setting.reachable_warned.numbered, fun t ht => (typed t ht).1⟩,
    fun t ht => (typed t ht).2⟩, Int.le_refl _, fun _ => rfl⟩

/-- The sample with its rules in force. -/
def ready : Setting := (Setting.warned.run refreshRules).2

/-- A tag is added for the first device of the sample, then the alarm of the second one is raised
and cleared. -/
def busy : List Choice :=
  [.edit (.create ⟨.int 1, .text "even", ⟨.text "b", .text "=", .text "b", .int 0⟩, .text "B",
      .text ""⟩), .message (Setting.reading "9"), .message (Setting.reading "3")]

theorem answers_own_busy : ∃ f : Int → Int, f.Injective ∧ f 4 = 3 ∧ ∃ outcomes : List Outcome,
    outcomes.map (·.tagId) = [.int 2, .int 4] ∧
    answers 2 (Course.events next ready busy) = outcomes.map .ok ∧
    answers 2 (Course.events next ready (own 2 f ready busy)) =
      (outcomes.map (·.renumbered f)).map .ok := by
  obtain ⟨_, -, steady, -⟩ := sheltered_warned.refresh
  have proper : ∀ c ∈ busy, c.Proper := by
    refine List.forall_mem_cons.mpr ⟨⟨?_, nofun⟩, List.forall_mem_cons.mpr ⟨⟨2, rfl⟩,
      List.forall_mem_singleton.mpr ⟨2, rfl⟩⟩⟩
    exact ⟨⟨_, rfl⟩, ⟨_, rfl⟩, ⟨_, rfl⟩, ⟨_, rfl⟩, ⟨_, rfl⟩, ⟨_, rfl⟩, ⟨_, rfl⟩, ⟨_, rfl⟩⟩
  obtain ⟨f, inj, -, ⟨outcomes, hfirst, hsecond⟩, -⟩ :=
    @answers_own ready ready steady steady.smooth rfl 2 busy proper
      ⟨trivial, trivial, trivial, trivial⟩
  have told (given : List Outcome) :
      (given.map Except.ok).map (fun a : Except Failure Outcome => a.toOption.map (·.tagId)) =
        (given.map (·.tagId)).map some := by
    simp [Except.toOption]
  have full : outcomes.map (·.tagId) = [.int 2, .int 4] := by
    refine List.map_injective_iff.mpr (Option.some_injective Datum) ?_
    rw [← told, ← hfirst]
    rfl
  have less : (outcomes.map (·.renumbered f)).map (·.tagId) = [.int 2, .int 3] := by
    refine List.map_injective_iff.mpr (Option.some_injective Datum) ?_
    rw [← told, ← hsecond]
    rfl
  have both : (outcomes.map (·.renumbered f)).map (·.tagId) =
      (outcomes.map (·.tagId)).map (Datum.renumbered f) := by
    simp [Outcome.renumbered]
  rw [full, less] at both
  obtain ⟨-, four⟩ : 2 = f 2 ∧ 3 = f 4 := by simpa [Datum.renumbered] using both
  exact ⟨f, inj, four.symm, outcomes, full, hfirst, hsecond⟩

end DeviceAlerts.Monitor.Isolation
