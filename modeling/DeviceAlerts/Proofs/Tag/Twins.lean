import DeviceAlerts.Proofs.Monitor.Steady
import DeviceAlerts.Proofs.Numbering
import Mathlib.Data.List.Forall2
import Mathlib.Logic.Function.Defs

/-! Tags that are the same but for their numbers and times. Rules do not look into the times, and
into the numbers only to tell tags apart, so where the tags of a device are the same under other
numbers, its messages call for the same. Edits keep tags the same when they are given the other
numbers, and edits that concern other devices do not matter. -/

namespace DeviceAlerts

open DeviceAlerts.Monitor DeviceAlerts.Time

/-! ### Other numbers -/

section

variable (f : Int → Int)

def Outcome.renumbered (o : Outcome) : Outcome := { o with tagId := o.tagId.renumbered f }

def Monitor.Edit.renumbered : Edit → Edit
  | create draft => create draft
  | update id changes => update (id.renumbered f) changes
  | delete id => delete (id.renumbered f)

def Monitor.Plan.renumbered : Plan → Plan
  | delete id => delete (id.renumbered f)
  | other => other

theorem Monitor.Plan.edit?_renumbered (p : Plan) :
    (p.renumbered f).edit? = p.edit?.map (Edit.renumbered f) := by
  cases p <;> rfl

theorem Monitor.Plan.transition?_renumbered (p : Plan) :
    (p.renumbered f).transition? = p.transition? := by
  cases p <;> rfl

theorem Monitor.Edit.Proper.renumbered {e : Edit} (h : e.Proper) : (e.renumbered f).Proper := by
  cases e with
  | create draft => exact h
  | update id changes =>
    obtain ⟨⟨i, rfl⟩, given⟩ := h
    exact ⟨⟨f i, rfl⟩, given⟩
  | delete id =>
    obtain ⟨i, rfl⟩ := h
    exact ⟨f i, rfl⟩

/-- The same tag under another number and at other times. -/
structure Tag.Twin (t u : Tag) : Prop where
  id : ∃ i : Int, t.id = .int i ∧ u.id = .int (f i)
  draft : u.draft = t.draft

structure Rule.Twin (r q : Rule) : Prop where
  tag : r.tag.Twin f q.tag
  matcher : q.matcher = r.matcher

end

variable {f : Int → Int}

namespace Tag.Twin

variable {t u : Tag}

theorem deviceId (h : t.Twin f u) : u.deviceId = t.deviceId := congrArg TagDraft.deviceId h.draft

theorem name (h : t.Twin f u) : u.name = t.name := congrArg TagDraft.name h.draft

theorem condition (h : t.Twin f u) : u.condition = t.condition :=
  congrArg TagDraft.condition h.draft

theorem subject (h : t.Twin f u) : u.subject = t.subject := congrArg TagDraft.subject h.draft

theorem severity (h : t.Twin f u) : u.severity = t.severity := congrArg TagDraft.severity h.draft

theorem id_eq_iff (h : t.Twin f u) (inj : f.Injective) (i : Int) :
    t.id = .int i ↔ u.id = .int (f i) := by
  obtain ⟨j, ht, hu⟩ := h.id
  rw [ht, hu, Datum.int.injEq, Datum.int.injEq, inj.eq_iff]

theorem renumbered_id (h : t.Twin f u) : t.id.renumbered f = u.id := by
  obtain ⟨i, ht, hu⟩ := h.id
  rw [ht, hu]
  rfl

theorem rule? (h : t.Twin f u) : Option.Rel (Rule.Twin f) t.rule? u.rule? := by
  unfold Tag.rule? Tag.compile
  rw [h.condition]
  cases t.condition.compile with
  | error obstacle => exact .none
  | ok matcher => exact .some ⟨h, rfl⟩

end Tag.Twin

/-! ### Winners and plans -/

theorem Rule.Twin.recovery {r q : Rule} (h : r.Twin f q) : q.recovery = r.recovery := by
  simp only [Rule.recovery, Rule.type, Tag.recoveryOf, h.matcher, h.tag.deviceId, h.tag.name,
    h.tag.condition]

namespace Monitor

theorem scan_twins {rules others : List Rule} (h : List.Forall₂ (Rule.Twin f) rules others)
    (text : Datum) : Option.Rel (Rule.Twin f) (scan text rules).2 (scan text others).2 := by
  rw [winner_scan, winner_scan]
  induction h with
  | nil => exact .none
  | @cons r q _ _ twin _ ih =>
    have hfires : q.fires text = r.fires text := by
      simp only [Rule.fires, Rule.accepts, twin.matcher]
    rw [List.find?_cons, List.find?_cons, hfires]
    cases r.fires text with
    | true => exact .some twin
    | false => exact ih

theorem any_twins {rules others : List Rule} {p q : Rule → Bool}
    (h : List.Forall₂ (Rule.Twin f) rules others) (same : ∀ r r', r.Twin f r' → p r = q r') :
    rules.any p = others.any q := by
  induction h with
  | nil => rfl
  | cons twin _ ih => rw [List.any_cons, List.any_cons, ih, same _ _ twin]

theorem verdict_twin {r q : Rule} (h : r.Twin f q) (m : Message)
    (transition : Option Transition) :
    verdict m q transition = (verdict m r transition).renumbered f := by
  simp only [verdict, graded, Outcome.renumbered, h.tag.severity, h.tag.subject,
    h.tag.renumbered_id]

/-- Twins call for the same where their devices have the same rules. -/
theorem plan_twins (inj : f.Injective) {r q : Rule} (h : r.Twin f q) {book other : Book}
    (rules : List.Forall₂ (Rule.Twin f) (book.rulesOf r.tag.deviceId)
      (other.rulesOf r.tag.deviceId)) : plan q other = (plan r book).renumbered f := by
  have hthreshold : q.isThreshold = r.isThreshold := by
    simp only [Rule.isThreshold, Rule.type, h.matcher]
  have hrecovery : q.tag.isRecovery = r.tag.isRecovery := by
    simp only [Tag.isRecovery, h.tag.subject]
  have hactive : (book.rulesOf r.tag.deviceId).any (fun a => a.tag.id == r.tag.id) =
      (other.rulesOf r.tag.deviceId).any fun a => a.tag.id == q.tag.id := by
    refine any_twins rules fun a b twin => ?_
    obtain ⟨i, hr, hq⟩ := h.tag.id
    obtain ⟨j, ha, hb⟩ := twin.tag.id
    rw [hr, hq, ha, hb, Bool.eq_iff_iff, Datum.int_beq_int, Datum.int_beq_int, inj.eq_iff]
  have hagrees : (book.rulesOf r.tag.deviceId).any (fun a => a.tag.agreesWith r.recovery) =
      (other.rulesOf r.tag.deviceId).any fun a => a.tag.agreesWith r.recovery := by
    refine any_twins rules fun a b twin => ?_
    simp only [Tag.agreesWith, twin.tag.deviceId, twin.tag.condition, twin.tag.subject]
  simp only [plan, hthreshold, hrecovery, h.recovery, h.tag.deviceId, hactive, hagrees]
  split
  · rfl
  · split
    · split
      · exact congrArg Plan.delete h.tag.renumbered_id.symm
      · rfl
    · split <;> rfl

end Monitor

/-! ### The tags of a device -/

/-- The tags of a device, in the order of the store. -/
def ofDevice (d : Int) (rows : List Tag) : List Tag := rows.filter fun t => t.deviceId = .int d

variable {d : Int}

theorem mem_ofDevice {rows : List Tag} {t : Tag} :
    t ∈ ofDevice d rows ↔ t ∈ rows ∧ t.deviceId = .int d := by
  rw [ofDevice, List.mem_filter, decide_eq_true_iff]

theorem ofDevice_map {rows : List Tag} {g : Tag → Tag}
    (keeps : ∀ t ∈ rows, (g t).deviceId = t.deviceId) :
    ofDevice d (rows.map g) = (ofDevice d rows).map g := by
  rw [ofDevice, List.filter_map]
  refine congrArg (List.map g) (List.filter_congr fun t ht => ?_)
  rw [Function.comp, keeps t ht]

theorem rulesOf_ofDevice {tags : Store.Tags} (sound : tags.Sound) {now : Moment} {book : Book}
    (h : Book.ofTags tags.rows now = .ok book) (d : Int) :
    book.rulesOf (.int d) = (ofDevice d tags.rows).filterMap Tag.rule? := by
  rw [Book.rulesOf_ofTags h]
  refine congrArg (List.filterMap Tag.rule?) (List.filter_congr fun t ht => ?_)
  obtain ⟨i, hi⟩ := (sound.typed t ht).draft.deviceId
  rw [show t.deviceId = .int i from hi, Bool.eq_iff_iff, Datum.int_beq_int, decide_eq_true_iff,
    Datum.int.injEq]

/-! ### Edits -/

theorem TagChange.draft_applyAll {t u : Tag} (same : u.draft = t.draft)
    (changes : List TagChange) : (applyAll u changes).draft = (applyAll t changes).draft := by
  induction changes generalizing t u with
  | nil => exact same
  | cons c rest ih =>
    refine ih ?_
    obtain ⟨uid, udevice, uname, ucondition, usubject, useverity, ucreated, uupdated⟩ := u
    cases same
    cases c <;> rfl

theorem Tag.Twin.revised {t u : Tag} (h : t.Twin f u) (now later : Moment)
    (changes : List TagChange) :
    (Store.Tags.revised now changes t).Twin f (Store.Tags.revised later changes u) := by
  obtain ⟨i, ht, hu⟩ := h.id
  refine ⟨⟨i, (Store.Tags.id_revised now changes t).trans ht,
    (Store.Tags.id_revised later changes u).trans hu⟩, ?_⟩
  unfold Store.Tags.revised
  split
  · exact TagChange.draft_applyAll h.draft changes
  · exact h.draft

namespace Monitor.Edit

/-- Whether an edit is for a device other than the given one. -/
def isForeign (d : Int) (rows : List Tag) : Edit → Bool
  | create draft => draft.deviceId ≠ .int d
  | update id _ | delete id => rows.any fun t => t.id = id && t.deviceId ≠ .int d

/-- An update leaves a tag with its device. -/
def KeepsDevice (rows : List Tag) : Edit → Prop
  | update id changes =>
    ∀ t ∈ rows, t.id = id → (TagChange.applyAll t changes).deviceId = t.deviceId
  | create _ | delete _ => True

variable {tags others : Store.Tags} {now later : Moment}

theorem ofDevice_create (draft : TagDraft) : ofDevice d (tags.create now draft).2.rows =
    ofDevice d tags.rows ++
      if draft.deviceId = .int d then [draft.stored tags.nextId now] else [] := by
  show ofDevice d (tags.rows ++ [draft.stored tags.nextId now]) = _
  rw [ofDevice, List.filter_append, List.filter_singleton, Bool.cond_decide]
  rfl

theorem deviceId_revised {id : Datum} {changes : List TagChange}
    (keeps : (update id changes).KeepsDevice tags.rows) {t : Tag} (ht : t ∈ tags.rows)
    (hid : t.id = id) : (Store.Tags.revised now changes t).deviceId = t.deviceId := by
  unfold Store.Tags.revised
  split
  · exact keeps t ht hid
  · rfl

theorem ofDevice_update (numbered : tags.Numbered) {i : Int} {changes : List TagChange}
    (keeps : (update (.int i) changes).KeepsDevice tags.rows) :
    ofDevice d (tags.update now (.int i) changes).2.rows = (ofDevice d tags.rows).map fun t =>
      if t.id = .int i then Store.Tags.revised now changes t else t := by
  rw [Store.Tags.rows_update numbered, ofDevice_map]
  intro t ht
  split
  · next hid => exact deviceId_revised keeps ht hid
  · rfl

theorem ofDevice_delete (i : Int) : ofDevice d (tags.delete (.int i)).2.rows =
    (ofDevice d tags.rows).filter fun t => t.id ≠ .int i :=
  List.filter_filter.trans (by simp only [Bool.and_comm, ofDevice, List.filter_filter])

/-- Edits for other devices do not touch the tags of a device. -/
theorem ofDevice_after_of_foreign (numbered : tags.Numbered) {e : Edit} (proper : e.Proper)
    (keeps : e.KeepsDevice tags.rows) (foreign : e.isForeign d tags.rows = true) :
    ofDevice d (e.after now tags).rows = ofDevice d tags.rows := by
  have others {i : Int} (h : (tags.rows.any fun t => t.id = .int i && t.deviceId ≠ .int d) = true) :
      ∀ t ∈ ofDevice d tags.rows, t.id ≠ .int i := by
    intro t ht hid
    obtain ⟨u, hu, hother⟩ := List.any_eq_true.mp h
    simp only [Bool.and_eq_true, decide_eq_true_eq] at hother
    obtain ⟨member, hdevice⟩ := mem_ofDevice.mp ht
    rw [numbered.eq_of_id member hu (hid.trans hother.1.symm)] at hdevice
    exact hother.2 hdevice
  cases e with
  | create draft =>
    rw [after, ofDevice_create, if_neg (of_decide_eq_true foreign), List.append_nil]
  | update id changes =>
    obtain ⟨⟨i, rfl⟩, -⟩ := proper
    have hothers := others foreign
    rw [after, ofDevice_update numbered keeps]
    exact (List.map_congr_left fun t ht => if_neg (hothers t ht)).trans (List.map_id _)
  | delete id =>
    obtain ⟨i, rfl⟩ := proper
    rw [after, ofDevice_delete, List.filter_eq_self]
    exact fun t ht => decide_eq_true (others foreign t ht)

/-- Edits for a device, each with the numbers of its side, leave the tags the same. -/
theorem twins_after (inj : f.Injective)
    (twins : List.Forall₂ (Tag.Twin f) (ofDevice d tags.rows) (ofDevice d others.rows))
    (numbered : tags.Numbered) (numbered' : others.Numbered) {e : Edit} (proper : e.Proper)
    (keeps : e.KeepsDevice tags.rows) (keeps' : (e.renumbered f).KeepsDevice others.rows)
    (given : ∀ draft, e = .create draft → f tags.nextId = others.nextId) :
    List.Forall₂ (Tag.Twin f) (ofDevice d (e.after now tags).rows)
      (ofDevice d ((e.renumbered f).after later others).rows) := by
  cases e with
  | create draft =>
    have stored : (draft.stored tags.nextId now).Twin f (draft.stored others.nextId later) :=
      ⟨⟨_, rfl, by rw [given draft rfl]; rfl⟩, rfl⟩
    rw [after, ofDevice_create]
    show List.Forall₂ _ _ (ofDevice d (others.create later draft).2.rows)
    rw [ofDevice_create]
    refine List.rel_append twins ?_
    split
    · exact .cons stored .nil
    · exact .nil
  | update id changes =>
    obtain ⟨⟨i, rfl⟩, -⟩ := proper
    rw [after, ofDevice_update numbered keeps]
    show List.Forall₂ _ _ (ofDevice d (others.update later (.int (f i)) changes).2.rows)
    rw [ofDevice_update numbered' keeps']
    refine List.rel_map (fun t u twin => ?_) twins
    by_cases hid : t.id = .int i
    · rw [if_pos hid, if_pos ((twin.id_eq_iff inj i).mp hid)]
      exact twin.revised now later changes
    · rw [if_neg hid, if_neg fun h => hid ((twin.id_eq_iff inj i).mpr h)]
      exact twin
  | delete id =>
    obtain ⟨i, rfl⟩ := proper
    rw [after, ofDevice_delete]
    show List.Forall₂ _ _ (ofDevice d (others.delete (.int (f i))).2.rows)
    rw [ofDevice_delete]
    refine List.rel_filter (fun t u twin => ?_) twins
    simpa only [ne_eq, decide_not, Bool.not_eq_true', decide_eq_false_iff_not] using
      not_congr (twin.id_eq_iff inj i)

end Monitor.Edit

/-! ### Messages -/

section

variable {tags others : Store.Tags} {book other : Book} {now later : Moment}
  (twins : List.Forall₂ (Tag.Twin f) (ofDevice d tags.rows) (ofDevice d others.rows))
  (sound : tags.Sound) (sound' : others.Sound) (h : Book.ofTags tags.rows now = .ok book)
  (h' : Book.ofTags others.rows later = .ok other)

include twins sound sound' h h'

theorem rulesOf_twins :
    List.Forall₂ (Rule.Twin f) (book.rulesOf (.int d)) (other.rulesOf (.int d)) := by
  rw [rulesOf_ofDevice sound h, rulesOf_ofDevice sound' h']
  exact List.rel_filterMap (fun _ _ twin => twin.rule?) twins

/-- A message of the device is won by twins, and it calls for the same. -/
theorem calledFor_twins (inj : f.Injective) {m : Message} (hm : m.deviceId = .int d) :
    Option.Rel (Rule.Twin f) (scan (body m) (book.rulesOf m.deviceId)).2
        (scan (body m) (other.rulesOf m.deviceId)).2 ∧
      Setting.calledFor m other = (Setting.calledFor m book).renumbered f := by
  have rules := rulesOf_twins twins sound sound' h h'
  have winners := scan_twins rules (body m)
  rw [← hm] at winners
  refine ⟨winners, ?_⟩
  have device : ∀ r ∈ (scan (body m) (book.rulesOf m.deviceId)).2, r.tag.deviceId = .int d := by
    intro r hr
    have member := mem_of_winner hr
    rw [hm, rulesOf_ofDevice sound h, List.mem_filterMap] at member
    obtain ⟨t, ht, hrule⟩ := member
    rw [(Tag.compile_eq_ok.mp (Tag.rule?_eq_some.mp hrule)).1]
    exact (mem_ofDevice.mp ht).2
  unfold Setting.calledFor
  generalize (scan (body m) (book.rulesOf m.deviceId)).2 = winner at winners device
  generalize (scan (body m) (other.rulesOf m.deviceId)).2 = twin at winners
  cases winners with
  | none => rfl
  | some winners =>
    rw [← device _ rfl] at rules
    exact plan_twins inj winners rules

end

end DeviceAlerts
