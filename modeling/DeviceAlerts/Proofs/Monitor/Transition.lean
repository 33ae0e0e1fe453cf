import DeviceAlerts.Proofs.Monitor.Exchange

/-! Transitions and what they tell of the store. The rules in force may have nothing to do with the
tags that are stored, and any store call may fail. What is reported of a winner still is what has
become of the tags: its transition follows the answer of the one write that there is, and a reload
that fails afterwards takes nothing back. -/

namespace DeviceAlerts

open DeviceAlerts.Monitor DeviceAlerts.Time

/-! ### Recoveries, field by field -/

namespace Tag

/-- A tag looks for the same as another on the other side of the limit, and reports that all is
well. -/
structure Recovers (t other : Tag) : Prop where
  deviceId : t.deviceId = other.deviceId
  name : t.name = other.name
  regexp : t.condition.regexp = other.condition.regexp
  compareType : ∃ type, CompareType.ofDatum? other.condition.compareType = some type ∧
    t.condition.compareType = .text type.flipped.symbol
  value : t.condition.value = other.condition.value
  arrayIndex : t.condition.arrayIndex = other.condition.arrayIndex
  subject : t.subject = .text "OK"
  severity : t.severity = .text "info"

theorem recovers_iff {t other : Tag} : t.Recovers other ↔ other.recovery? = some t.draft := by
  constructor
  · rintro ⟨hdevice, hname, hregexp, ⟨type, htype, hflipped⟩, hvalue, hindex, hsubject, hseverity⟩
    have hcondition : t.condition = other.condition.withType type.flipped := by
      rw [Condition.withType, ← hregexp, ← hflipped, ← hvalue, ← hindex]
    refine Option.map_eq_some_iff.mpr ⟨type, htype, ?_⟩
    rw [draft, hdevice, hname, hcondition, hsubject, hseverity]
    rfl
  · intro h
    obtain ⟨type, htype, hdraft⟩ := Option.map_eq_some_iff.mp h
    obtain ⟨id, deviceId, name, condition, subject, severity, _, _⟩ := t
    cases hdraft
    exact ⟨rfl, rfl, rfl, ⟨type, htype, rfl⟩, rfl, rfl, rfl, rfl⟩

end Tag

/-! ### Changes of the stored tags -/

namespace Store.Tags

/-- The recovery of a tag has been added to the stored tags, under the next number. -/
def Gained (before : Tags) (after : List Tag) (winner : Tag) (now : Moment) : Prop :=
  ∃ t, after = before.rows ++ [t] ∧ t.Recovers winner ∧
    t.id = .int before.nextId ∧ (∀ u ∈ before.rows, u.id ≠ t.id) ∧
    t.createdAt = .moment now ∧ t.updatedAt = .moment now

/-- The one tag of a number has been taken out of the stored tags. -/
def Lost (before : Tags) (after : List Tag) (id : Datum) : Prop :=
  ∃ front t back i, id.readInteger = .ok i ∧ t.id = .int i ∧ before.rows = front ++ t :: back ∧
    after = front ++ back ∧ ∀ u ∈ front ++ back, u.id ≠ t.id

variable {s : Tags} {after : List Tag} {winner : Tag} {id : Datum} {now : Moment}

theorem Gained.length (h : s.Gained after winner now) : after.length = s.rows.length + 1 := by
  obtain ⟨t, rfl, -⟩ := h
  exact List.length_append

theorem Lost.length (h : s.Lost after id) : after.length + 1 = s.rows.length := by
  obtain ⟨front, t, back, i, -, -, hbefore, rfl, -⟩ := h
  rw [hbefore, List.length_append, List.length_append, List.length_cons, Nat.add_assoc]

theorem not_gained_self : ¬ s.Gained s.rows winner now := fun h => by
  have := h.length
  omega

theorem not_lost_self : ¬ s.Lost s.rows id := fun h => by
  have := h.length
  omega

theorem Gained.not_lost (h : s.Gained after winner now) : ¬ s.Lost after id := fun lost => by
  have := h.length
  have := lost.length
  omega

theorem Numbered.gained (h : s.Numbered) {draft : TagDraft}
    (recovery : winner.recovery? = some draft) (now : Moment) :
    s.Gained (s.create now draft).2.rows winner now := by
  refine ⟨_, rfl, Tag.recovers_iff.mpr recovery, rfl, fun u hu same => ?_, rfl, rfl⟩
  obtain ⟨i, hi, hid⟩ := h.given u hu
  have : i = s.nextId := Datum.int.inj (hid.symm.trans same)
  omega

theorem Numbered.lost (h : s.Numbered) (found : (s.delete id).1 = .ok true) :
    s.Lost (s.delete id).2.rows id := by
  unfold Tags.delete at found ⊢
  cases hid : id.readInteger with
  | error failure =>
    rw [hid] at found
    cases found
  | ok i =>
    rw [hid] at found
    obtain ⟨t, member, same⟩ := List.any_eq_true.mp (Except.ok.inj found)
    have hown : t.id = .int i := of_decide_eq_true same
    obtain ⟨front, back, hrows⟩ := List.append_of_mem member
    have apart : ∀ u ∈ front ++ back, u.id ≠ t.id := by
      have distinct := (List.pairwise_middle fun hne => hne.symm).mp (hrows ▸ h.distinct)
      exact fun u hu => ((List.pairwise_cons.mp distinct).1 u hu).symm
    refine ⟨front, t, back, i, hid, hown, hrows, ?_, apart⟩
    have hkept : (front ++ back).filter (fun u => u.id ≠ .int i) = front ++ back :=
      List.filter_eq_self.mpr fun u hu => decide_eq_true (hown ▸ apart u hu)
    simpa [hrows, hown] using hkept

end Store.Tags

namespace Monitor

/-! ### Writes -/

/-- The store call that is more than a read, whether it fails or not. -/
def Exchange.write? : Exchange → Option Store.Call
  | ⟨.store c, _⟩ => if c.isRead then none else some c
  | _ => none

theorem peruses_cleared (r : Rule) (found : Bool) : Peruses (Setting.cleared r found) := by
  refine Peruses.bind ?_ fun _ => (peruses_reloadRules _).bind fun _ => peruses_pure _
  cases found with
  | true => exact peruses_pure ()
  | false => exact peruses_tellOne _

namespace Setting

variable {α β : Type} (s : Setting)

/-- The writes that a run asks for, in their order. -/
def writes (activity : Activity α) : List Store.Call :=
  (s.exchanges activity).filterMap Exchange.write?

theorem writes_bind (first : Activity α) (rest : α → Activity β) :
    s.writes (first >>= rest) = s.writes first ++ (s.run first).2.writes (rest (s.run first).1) :=
  s.filterMap_exchanges_bind _ first rest

theorem writes_ask (c : Call) (next : c.Answer → Activity α) : s.writes (.ask c next) =
    (Exchange.write? ⟨c, (answer c s).1⟩).toList ++
      (answer c s).2.writes (next (answer c s).1) :=
  s.filterMap_exchanges_ask _ c next

theorem writes_askStore {c : Store.Call} (write : c.isRead = false) :
    s.writes (askStore c) = [c] := by
  show s.writes (.ask (.store c) .done) = [c]
  rw [writes_ask, Exchange.write?, if_neg (Bool.eq_false_iff.mp write)]
  rfl

end Setting

/-- Who only reads leaves the store as it is. -/
theorem Peruses.run {α : Type} {activity : Activity α} (h : Peruses activity) (s : Setting) :
    s.writes activity = [] ∧ (s.run activity).2.site.store = s.site.store := by
  induction activity generalizing s with
  | done a => exact ⟨rfl, rfl⟩
  | ask c next ih =>
    obtain ⟨may, rest⟩ := h
    obtain ⟨hwrites, hstore⟩ := ih (Setting.answer c s).1 (rest _ trivial) (Setting.answer c s).2
    have hread : Exchange.write? ⟨c, (Setting.answer c s).1⟩ = none := by
      cases c with
      | store call => exact if_pos (may call rfl)
      | _ => rfl
    constructor
    · rw [Setting.writes_ask, hread, hwrites]
      rfl
    · exact hstore.trans (s.site.store_answer (s.chances 0) may)

/-! ### What a winner comes to -/

theorem plan_eq_ignore_iff {r : Rule} {book : Book} :
    plan r book = .ignore ↔ r.isThreshold = false := by
  unfold plan
  grind

theorem idle_of_plan_settled {r : Rule} {book : Book} {transition : Transition}
    (h : plan r book = .settled transition) :
    transition = .alreadyArmed ∨ transition = .alreadyCleared := by
  unfold plan at h
  grind

/-- What comes of a winner that is handled: its transition, the writes that were asked for and the
store that they leave. -/
inductive Handled (r : Rule) (store : Store) (now : Moment) :
    Option Transition → List Store.Call → Store → Prop
  | ignored : Handled r store now none [] store
  | settled {transition : Transition}
      (idle : transition = .alreadyArmed ∨ transition = .alreadyCleared) :
      Handled r store now (some transition) [] store
  | failed (write : Store.Call) : Handled r store now (some .failed) [write] store
  | missed : Handled r store now (some .alreadyCleared) [.deleteTag r.tag.id] store
  | deleted (found : (store.tags.delete r.tag.id).1 = .ok true) :
      Handled r store now (some .deleted) [.deleteTag r.tag.id]
        { store with tags := (store.tags.delete r.tag.id).2 }
  | created : Handled r store now (some .created) [.createTag r.recovery]
      { store with tags := (store.tags.create now r.recovery).2 }

/-- What a transition tells of the stored tags. -/
structure Tells (r : Rule) (before : Store) (now : Moment) (transition : Option Transition)
    (after : Store) : Prop where
  created : transition = some .created ↔ before.tags.Gained after.tags.rows r.tag now
  deleted : transition = some .deleted ↔ before.tags.Lost after.tags.rows r.tag.id
  otherwise : transition ≠ some .created → transition ≠ some .deleted → after = before

namespace Handled

variable {r : Rule} {store after : Store} {now : Moment} {transition : Option Transition}
  {writes : List Store.Call}

theorem tells_self (uncreated : transition ≠ some .created)
    (undeleted : transition ≠ some .deleted) : Tells r store now transition store :=
  ⟨iff_of_false uncreated Store.Tags.not_gained_self,
    iff_of_false undeleted Store.Tags.not_lost_self, fun _ _ => rfl⟩

theorem tells (h : Handled r store now transition writes after) (compiled : r.tag.compile = .ok r)
    (numbered : store.tags.Numbered) : Tells r store now transition after := by
  cases h with
  | ignored | failed | missed => exact tells_self nofun nofun
  | settled idle => rcases idle with rfl | rfl <;> exact tells_self nofun nofun
  | deleted found =>
    have lost := numbered.lost found
    exact ⟨iff_of_false nofun fun gained => gained.not_lost lost, iff_of_true rfl lost,
      fun _ undeleted => absurd rfl undeleted⟩
  | created =>
    have gained := numbered.gained (Tag.recovery?_of_compile compiled) now
    exact ⟨iff_of_true rfl gained, iff_of_false nofun gained.not_lost,
      fun uncreated _ => absurd rfl uncreated⟩

theorem length_writes (h : Handled r store now transition writes after) : writes.length ≤ 1 := by
  cases h <;> simp

end Handled

namespace Setting

variable (s : Setting) (r : Rule)

/-- After the one write that a winner is given nothing is done but to read. -/
theorem handled_write {c : Store.Call} {now : Moment} (write : c.isRead = false)
    {rest : Except Failure c.Answer → Activity Transition}
    (peruses : ∀ answer, Peruses (rest answer))
    (answered : Handled r s.site.store now
      (some ((answer (.store c) s).2.run (rest (answer (.store c) s).1)).1) [c]
      (answer (.store c) s).2.site.store) :
    Handled r s.site.store now (some (s.run (askStore c >>= rest)).1)
      (s.writes (askStore c >>= rest)) (s.run (askStore c >>= rest)).2.site.store := by
  obtain ⟨hwrites, hstore⟩ := (peruses (answer (.store c) s).1).run (answer (.store c) s).2
  rw [writes_bind, s.writes_askStore write, run_bind, run_askStore, hwrites, hstore]
  exact answered

theorem answer_cleared (found : Bool) :
    (s.run (cleared r found)).1 = if found then .deleted else .alreadyCleared := by
  unfold cleared
  rw [run_bind, run_bind]
  rfl

theorem handled_clear : Handled r s.site.store (s.chances 0).now (some (s.run (clear r)).1)
    (s.writes (clear r)) (s.run (clear r)).2.site.store := by
  rw [clear_eq]
  refine s.handled_write r (c := .deleteTag r.tag.id) rfl (fun answer => ?_) ?_
  · cases answer with
    | error failure => exact (peruses_tellOne _).bind fun _ => peruses_pure _
    | ok found => exact peruses_cleared r found
  · rcases s.answer_deleteTag_cases r.tag.id with ⟨failure, hanswer⟩ | ⟨found, hdelete, hanswer⟩
    · rw [hanswer]
      exact .failed _
    · rw [hanswer]
      simp only [answer_cleared]
      cases found with
      | true => exact .deleted hdelete
      | false =>
        rw [Store.Tags.delete_eq_self (by rw [hdelete]; nofun)]
        exact .missed

theorem handled_trip : Handled r s.site.store (s.chances 0).now (some (s.run (trip r r.recovery)).1)
    (s.writes (trip r r.recovery)) (s.run (trip r r.recovery)).2.site.store := by
  refine s.handled_write r (c := .createTag r.recovery) rfl (fun answer => ?_) ?_
  · cases answer with
    | error failure => exact (peruses_tellOne _).bind fun _ => peruses_pure _
    | ok tag => exact (peruses_reloadRules _).bind fun _ => peruses_pure _
  · rcases s.answer_createTag_cases r.recovery with ⟨failure, hanswer⟩ | hanswer
    · rw [hanswer]
      exact .failed _
    · rw [hanswer]
      simp only [run_bind]
      exact .created

/-- Whatever is in force and whatever fails, a winner that is handled comes to one of six things. -/
theorem handled : Handled r s.site.store (s.chances 1).now (s.run (handle r)).1
    (s.writes (handle r)) (s.run (handle r)).2.site.store := by
  unfold handle
  rw [run_bind, writes_bind, run_readBook]
  cases hplan : plan r s.site.rules.snapshot with
  | ignore => exact .ignored
  | settled transition => exact .settled (idle_of_plan_settled hplan)
  | delete id =>
    have hclear := (s.later s.site).handled_clear r
    simp only [run_bind, writes_bind]
    rwa [← List.append_nil ((s.later s.site).writes (clear r))] at hclear
  | create draft =>
    obtain ⟨rfl, -, -, -⟩ := of_plan_create hplan
    have htrip := (s.later s.site).handled_trip r
    simp only [run_bind, writes_bind]
    rwa [← List.append_nil ((s.later s.site).writes (trip r r.recovery))] at htrip

theorem run_handle_eq_none_iff : (s.run (handle r)).1 = none ↔ r.isThreshold = false := by
  rw [← plan_eq_ignore_iff]
  unfold handle
  rw [run_bind, run_readBook]
  cases plan r s.site.rules.snapshot with
  | ignore => exact iff_of_true rfl rfl
  | settled transition => exact iff_of_false nofun nofun
  | delete id =>
    simp only [run_bind]
    exact iff_of_false nofun nofun
  | create draft =>
    simp only [run_bind]
    exact iff_of_false nofun nofun

variable {s r}

/-- The transition of a winner tells what has become of the stored tags, whatever rules are in
force and whichever store calls fail: its recovery has been added, or the one tag of its number is
gone, or nothing has changed. There is none for a winner that compares for equality, and the store
is asked for one write at most. -/
theorem transition_tells_change (compiled : r.tag.compile = .ok r)
    (numbered : s.site.store.tags.Numbered) :
    Tells r s.site.store (s.chances 1).now (s.run (handle r)).1 (s.run (handle r)).2.site.store ∧
      ((s.run (handle r)).1 = none ↔ r.type = .equal) ∧ (s.writes (handle r)).length ≤ 1 := by
  have handled := s.handled r
  refine ⟨handled.tells compiled numbered, ?_, handled.length_writes⟩
  rw [s.run_handle_eq_none_iff r, Rule.isThreshold]
  cases r.type <;> simp [CompareType.isThreshold]

/-- The sample before its rules are loaded; the reload after the first write fails. -/
def unloaded : Setting where
  site := warned.site
  chances n := { Chance.calm ⟨0, none⟩ with
    fault := if n = 3 then some (.unavailable "list_tags") else none }

theorem transition_tells_change_unloaded : ∃ r : Rule, r.tag ∈ unloaded.site.store.tags.rows ∧
    unloaded.site.store.tags.Gained (unloaded.run (handle r)).2.site.store.tags.rows r.tag
      ⟨0, none⟩ ∧
    (unloaded.run (handle r)).2.site.rules.snapshot = unloaded.site.rules.snapshot := by
  have compiled : (unloaded.site.store.tags.rows[1]).compile =
      .ok ⟨unloaded.site.store.tags.rows[1],
        ⟨_, .int 0, .threshold .above (.text "5") (some (.ofInt 5))⟩⟩ := rfl
  have numbered : unloaded.site.store.tags.Numbered :=
    (Store.Tags.numbered_empty.create _ _).create _ _
  obtain ⟨tells, -, -⟩ := transition_tells_change (r := ⟨_, _⟩) compiled numbered
  exact ⟨_, List.getElem_mem _, tells.created.mp (by decide +kernel), rfl⟩

end Setting

end Monitor

end DeviceAlerts
