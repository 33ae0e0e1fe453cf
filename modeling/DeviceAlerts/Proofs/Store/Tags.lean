import DeviceAlerts.Proofs.Datum.Likeness
import DeviceAlerts.Store

/-! The numbers of stored tags. Whatever the store is asked for, its tags have numbers that were
given out before, and no two tags have the same. -/

namespace DeviceAlerts

open DeviceAlerts.Time

namespace Store

namespace Tags

/-- The tags have numbers that have been given out, each its own. -/
structure Numbered (s : Tags) : Prop where
  given : ∀ t ∈ s.rows, ∃ i < s.nextId, t.id = .int i
  distinct : s.rows.Pairwise fun a b => a.id ≠ b.id

variable {s : Tags}

theorem numbered_empty : Numbered empty := ⟨nofun, .nil⟩

theorem Numbered.eq_of_id (h : s.Numbered) {a b : Tag} (ha : a ∈ s.rows) (hb : b ∈ s.rows)
    (hid : a.id = b.id) : a = b := by
  have distinct := h.distinct
  generalize s.rows = rows at ha hb distinct
  induction rows with
  | nil => cases ha
  | cons t rest ih =>
    obtain ⟨hhead, htail⟩ := List.pairwise_cons.mp distinct
    rcases List.mem_cons.mp ha with rfl | hatail
    · rcases List.mem_cons.mp hb with rfl | hbtail
      · rfl
      · exact absurd hid (hhead b hbtail)
    · rcases List.mem_cons.mp hb with rfl | hbtail
      · exact absurd hid.symm (hhead a hatail)
      · exact ih hatail hbtail htail

theorem Numbered.beq_id (h : s.Numbered) {t : Tag} (ht : t ∈ s.rows) : (t.id == t.id) = true := by
  obtain ⟨i, _, hid⟩ := h.given t ht
  rw [hid]
  exact Datum.int_beq_int.mpr rfl

/-- Numbers that count as equal belong to one tag. -/
theorem Numbered.eq_of_beq_id (h : s.Numbered) {a b : Tag} (ha : a ∈ s.rows) (hb : b ∈ s.rows)
    (hid : (a.id == b.id) = true) : a = b := by
  obtain ⟨i, _, hi⟩ := h.given a ha
  obtain ⟨j, _, hj⟩ := h.given b hb
  rw [hi, hj, Datum.int_beq_int] at hid
  exact h.eq_of_id ha hb (by rw [hi, hj, hid])

theorem Numbered.create (h : s.Numbered) (now : Moment) (draft : TagDraft) :
    (s.create now draft).2.Numbered := by
  obtain ⟨given, distinct⟩ := h
  constructor
  · intro t ht
    show ∃ i < s.nextId + 1, t.id = .int i
    rcases List.mem_append.mp ht with ht | ht
    · obtain ⟨i, hi, hid⟩ := given t ht
      exact ⟨i, by omega, hid⟩
    · obtain rfl := List.mem_singleton.mp ht
      exact ⟨s.nextId, by omega, rfl⟩
  · refine List.pairwise_append.mpr ⟨distinct, List.pairwise_singleton _ _, fun a ha b hb => ?_⟩
    obtain rfl := List.mem_singleton.mp hb
    obtain ⟨i, hi, hid⟩ := given a ha
    intro same
    have : i = s.nextId := Datum.int.inj (hid.symm.trans same)
    omega

theorem delete_stored {t : Tag} {i : Int} (hid : t.id = .int i) (member : t ∈ s.rows) :
    s.delete t.id = (.ok true, { s with rows := s.rows.filter fun u => u.id ≠ t.id }) := by
  have hany : s.rows.any (fun u => u.id = .int i) = true :=
    List.any_eq_true.mpr ⟨t, member, decide_eq_true hid⟩
  rw [hid]
  show (Except.ok (s.rows.any fun u => u.id = .int i), _) = _
  rw [hany]

theorem sublist_delete (s : Tags) (id : Datum) : (s.delete id).2.rows.Sublist s.rows := by
  unfold Tags.delete
  cases id.readInteger with
  | error failure => exact List.Sublist.refl _
  | ok i => exact List.filter_sublist

/-- Only a deletion that answers that there was a tag has changed anything. -/
theorem delete_eq_self {id : Datum} (h : (s.delete id).1 ≠ .ok true) : (s.delete id).2 = s := by
  unfold Tags.delete at h ⊢
  cases hid : id.readInteger with
  | error failure => rfl
  | ok i =>
    simp only [hid, ne_eq, Except.ok.injEq, Bool.not_eq_true] at h
    have hrows : s.rows.filter (fun u => u.id ≠ .int i) = s.rows :=
      List.filter_eq_self.mpr fun t ht => by simpa using List.any_eq_false.mp h t ht
    simp only [hrows]

/-- Only an update that answers a tag has changed one. -/
theorem update_eq_self {now : Moment} {id : Datum} {changes : List TagChange}
    (h : ∀ tag, (s.update now id changes).1 ≠ .ok (some tag)) :
    (s.update now id changes).2 = s := by
  simp only [Tags.update] at h ⊢
  split
  · rfl
  · next hknown =>
    simp only [hknown] at h
    cases hid : id.readInteger with
    | error failure => rfl
    | ok i =>
      cases hfind : s.find? i with
      | none => simp only [hfind]
      | some old => simp [hid, hfind] at h

theorem mem_delete {t : Tag} {i : Int} (member : t ∈ s.rows) (other : t.id ≠ .int i) :
    t ∈ (s.delete (.int i)).2.rows :=
  List.mem_filter.mpr ⟨member, decide_eq_true other⟩

theorem mem_delete_or {t : Tag} (member : t ∈ s.rows) (id : Datum) :
    t ∈ (s.delete id).2.rows ∨ ∃ i, id.readInteger = .ok i ∧ t.id = .int i := by
  unfold Tags.delete
  cases id.readInteger with
  | error failure => exact .inl member
  | ok i =>
    by_cases hid : t.id = .int i
    · exact .inr ⟨i, rfl, hid⟩
    · exact .inl (mem_delete member hid)

theorem Numbered.delete (h : s.Numbered) (id : Datum) : (s.delete id).2.Numbered := by
  unfold Tags.delete
  cases id.readInteger with
  | error failure => exact h
  | ok i =>
    exact ⟨fun t ht => h.given t (List.mem_filter.mp ht).1, h.distinct.filter _⟩

theorem Numbered.replace (h : s.Numbered) (tag : Tag) : (s.replace tag).Numbered := by
  have hid (t : Tag) : (if t.id = tag.id then tag else t).id = t.id := by
    split
    · next same => exact same.symm
    · rfl
  constructor
  · intro t ht
    obtain ⟨u, hu, rfl⟩ := List.mem_map.mp ht
    rw [hid]
    exact h.given u hu
  · refine List.pairwise_map.mpr (h.distinct.imp fun {a b} hne => ?_)
    rwa [hid, hid]

theorem Numbered.update (h : s.Numbered) (now : Moment) (id : Datum) (changes : List TagChange) :
    (s.update now id changes).2.Numbered := by
  simp only [Tags.update]
  split
  · exact h
  · cases id.readInteger with
    | error failure => exact h
    | ok i =>
      cases hfind : s.find? i with
      | none => simpa only [hfind] using h
      | some old => simpa only [hfind] using h.replace _

/-! ### What stands under a number -/

/-- The number of a tag has been given out, and nothing but the tag is stored under it. -/
structure Stands (s : Tags) (t : Tag) : Prop where
  given : ∃ i < s.nextId, t.id = .int i
  only : ∀ u ∈ s.rows, u.id = t.id → u = t

variable {t : Tag}

theorem Numbered.stands (h : s.Numbered) (ht : t ∈ s.rows) : s.Stands t :=
  ⟨h.given t ht, fun _ hu hid => h.eq_of_id hu ht hid⟩

theorem Stands.create (h : s.Stands t) (now : Moment) (draft : TagDraft) :
    (s.create now draft).2.Stands t := by
  obtain ⟨i, hi, hid⟩ := h.given
  refine ⟨⟨i, Int.lt_add_one_of_le (Int.le_of_lt hi), hid⟩, fun u hu same => ?_⟩
  rcases List.mem_append.mp hu with hu | hu
  · exact h.only u hu same
  · obtain rfl := List.mem_singleton.mp hu
    have : s.nextId = i := Datum.int.inj (same.trans hid)
    omega

theorem Stands.delete (h : s.Stands t) (id : Datum) : (s.delete id).2.Stands t := by
  unfold Tags.delete
  cases id.readInteger with
  | error failure => exact h
  | ok i => exact ⟨h.given, fun u hu => h.only u (List.mem_filter.mp hu).1⟩

theorem Stands.replace (h : s.Stands t) {new : Tag} (other : t.id ≠ new.id) :
    (s.replace new).Stands t := by
  refine ⟨h.given, fun u hu same => ?_⟩
  obtain ⟨v, hv, rfl⟩ := List.mem_map.mp hu
  split at same
  · exact absurd same.symm other
  · next hne =>
    rw [if_neg hne]
    exact h.only v hv same

theorem id_applyAll (t : Tag) (changes : List TagChange) :
    (TagChange.applyAll t changes).id = t.id := by
  induction changes generalizing t with
  | nil => rfl
  | cons change rest ih =>
    show (TagChange.applyAll (change.apply t) rest).id = t.id
    rw [ih]
    cases change <;> rfl

/-- An update of another number leaves a tag standing. -/
theorem Stands.update (h : s.Stands t) (now : Moment) {id : Datum} (changes : List TagChange)
    (other : ∀ i, id.readInteger = .ok i → t.id ≠ .int i) :
    (s.update now id changes).2.Stands t := by
  simp only [Tags.update]
  split
  · exact h
  · cases hid : id.readInteger with
    | error failure => exact h
    | ok i =>
      cases hfind : s.find? i with
      | none => simpa only [hfind] using h
      | some old =>
        have hold : old.id = .int i := by simpa using List.find?_some hfind
        simp only [hfind]
        exact h.replace fun same => other i hid (same.trans ((id_applyAll old changes).trans hold))

/-- After an update a tag is stored as it was before or, if the number is its own, as changed. -/
theorem mem_update_or (h : s.Numbered) {t : Tag} (member : t ∈ s.rows) (now : Moment) (id : Datum)
    (changes : List TagChange) : t ∈ (s.update now id changes).2.rows ∨
      (∃ i, id.readInteger = .ok i ∧ t.id = .int i) ∧
        { TagChange.applyAll t changes with updatedAt := .moment now } ∈
          (s.update now id changes).2.rows := by
  simp only [Tags.update]
  split
  · exact .inl member
  · cases hid : id.readInteger with
    | error failure => exact .inl member
    | ok i =>
      cases hfind : s.find? i with
      | none => simpa only [hfind] using .inl member
      | some old =>
        have hold : old.id = .int i := by simpa using List.find?_some hfind
        simp only [hfind]
        by_cases hsame : t.id = old.id
        · obtain rfl := h.eq_of_id member (List.mem_of_find?_eq_some hfind) hsame
          refine .inr ⟨⟨i, rfl, hold⟩, List.mem_map.mpr ⟨t, member, if_pos ?_⟩⟩
          exact (id_applyAll t changes).symm
        · refine .inl (List.mem_map.mpr ⟨t, member, if_neg fun hnew => hsame ?_⟩)
          exact hnew.trans (id_applyAll old changes)

end Tags

/-- A call for tags that fails leaves the store as it is. -/
theorem perform_eq_self {s : Store} {now : Moment} {c : Call} {failure : Failure}
    (tags : c.kind = .tags) (h : (s.perform now c).1 = .error failure) :
    (s.perform now c).2 = s := by
  cases c with
  | listTags | getTag => rfl
  | createTag draft => cases h
  | updateTag id changes =>
    have same : (s.tags.update now id changes).2 = s.tags :=
      Tags.update_eq_self fun tag htag => by cases htag.symm.trans h
    exact congrArg (fun tags => { s with tags }) same
  | deleteTag id =>
    have same : (s.tags.delete id).2 = s.tags :=
      Tags.delete_eq_self fun hdeleted => by cases hdeleted.symm.trans h
    exact congrArg (fun tags => { s with tags }) same
  | _ => cases tags

/-- The stores that can come about. -/
inductive Reachable : Store → Prop
  | empty : Reachable .empty
  | perform {s : Store} (h : Reachable s) (now : Moment) (c : Call) : Reachable (s.perform now c).2

theorem Reachable.numbered {s : Store} (h : s.Reachable) : s.tags.Numbered := by
  induction h with
  | empty => exact Tags.numbered_empty
  | perform _ now c ih =>
    cases c with
    | createTag draft => exact ih.create now draft
    | updateTag id changes => exact ih.update now id changes
    | deleteTag id => exact ih.delete id
    | _ => exact ih

end Store

end DeviceAlerts
