import DeviceAlerts.Proofs.Rule.Recovery
import Mathlib.Data.List.Pairwise

/-! What messages do to the stored tags. A message on which an alerting threshold tag wins adds the
all-clear of its concern, unless it is there; a message on which an all-clear wins takes it away.
Each concern goes back and forth between two states for itself, and all other tags stay. -/

namespace DeviceAlerts

open DeviceAlerts.Time

/-! ### At most one all-clear for a concern -/

/-- No two all-clears have the same concern. -/
def Unrepeated (rows : List Tag) : Prop :=
  rows.Pairwise fun a b => ¬ (a.isAllClear = true ∧ b.isAllClear = true ∧
    (a.concern == b.concern) = true)

namespace Tag

theorem clears_iff {t : Tag} {c : Concern} :
    t.clears c = true ↔ t.isAllClear = true ∧ (t.concern == c) = true := Bool.and_eq_true_iff

theorem clears_congr {c d : Concern} (h : (c == d) = true) (t : Tag) : t.clears c = t.clears d := by
  rw [clears, clears, BEq.congr_right h]

theorem clears_both {a b : Tag} {c : Concern} (ha : a.clears c = true) (hb : b.clears c = true) :
    a.isAllClear = true ∧ b.isAllClear = true ∧ (a.concern == b.concern) = true :=
  ⟨(clears_iff.mp ha).1, (clears_iff.mp hb).1,
    PartialEquivBEq.trans (clears_iff.mp ha).2 (BEq.symm (clears_iff.mp hb).2)⟩

end Tag

namespace Unrepeated

variable {rows : List Tag}

theorem countP_le_one (h : Unrepeated rows) (c : Concern) : rows.countP (·.clears c) ≤ 1 := by
  induction rows with
  | nil => exact Nat.zero_le 1
  | cons t rest ih =>
    obtain ⟨hhead, htail⟩ := List.pairwise_cons.mp h
    rw [List.countP_cons]
    by_cases ht : t.clears c = true
    · have hrest : rest.countP (·.clears c) = 0 := List.countP_eq_zero.mpr fun u hu hclears =>
        hhead u hu (Tag.clears_both ht hclears)
      simp [hrest, ht]
    · rw [if_neg ht]
      exact ih htail

theorem append {draft : TagDraft} (h : Unrepeated rows)
    (absent : rows.any (·.clears draft.concern) = false) (id : Int) (now : Moment) :
    Unrepeated (rows ++ [draft.stored id now]) := by
  refine List.pairwise_append.mpr ⟨h, List.pairwise_singleton _ _, fun a ha b hb => ?_⟩
  obtain rfl := List.mem_singleton.mp hb
  rintro ⟨hclear, _, hsame⟩
  have hclears : a.clears draft.concern = true := Tag.clears_iff.mpr ⟨hclear, hsame⟩
  exact absurd hclears (List.any_eq_false.mp absent a ha)

theorem eq_of_clears (h : Unrepeated rows) {a b : Tag} (ha : a ∈ rows) (hb : b ∈ rows) {c : Concern}
    (hac : a.clears c = true) (hbc : b.clears c = true) : a = b := by
  by_contra hne
  have symmetric : Std.Symm fun a b : Tag => ¬ (a.isAllClear = true ∧ b.isAllClear = true ∧
      (a.concern == b.concern) = true) :=
    ⟨fun x y hxy ⟨hy, hx, hsame⟩ => hxy ⟨hx, hy, BEq.symm hsame⟩⟩
  exact List.Pairwise.forall h ha hb hne (Tag.clears_both hac hbc)

end Unrepeated

/-! ### Adding and deleting an all-clear -/

section

variable {rows : List Tag} {t : Tag}

theorem any_clears_append {draft : TagDraft} (alarm : t.alarm? = some draft) (id : Int)
    (now : Moment) (c : Concern) :
    (rows ++ [draft.stored id now]).any (·.clears c) =
      (rows.any (·.clears c) || draft.concern == c) := by
  rw [List.any_append, List.any_cons, List.any_nil, Bool.or_false, Tag.clears_of_alarm? alarm]

theorem others_append {draft : TagDraft} (alarm : t.alarm? = some draft) (id : Int) (now : Moment) :
    (rows ++ [draft.stored id now]).filter (fun u => !u.isAllClear) =
      rows.filter fun u => !u.isAllClear := by
  have hclear := Tag.isAllClear_of_alarm? alarm id now
  rw [List.filter_append, List.filter_cons_of_neg (by simp [hclear]), List.filter_nil,
    List.append_nil]

variable (unique : ∀ u ∈ rows, u.id = t.id → u = t)

include unique

theorem any_clears_delete (unrepeated : Unrepeated rows) (member : t ∈ rows) (c : Concern) :
    (rows.filter fun u => u.id ≠ t.id).any (·.clears c) =
      (rows.any (·.clears c) && !t.clears c) := by
  rw [Bool.eq_iff_iff, Bool.and_eq_true, List.any_eq_true, List.any_eq_true, Bool.not_eq_true']
  constructor
  · rintro ⟨u, hu, hclears⟩
    obtain ⟨hmember, hid⟩ := List.mem_filter.mp hu
    refine ⟨⟨u, hmember, hclears⟩, Bool.eq_false_iff.mpr fun ht => ?_⟩
    have hsame : u = t := unrepeated.eq_of_clears hmember member hclears ht
    rw [hsame] at hid
    simp at hid
  · rintro ⟨⟨u, hmember, hclears⟩, ht⟩
    refine ⟨u, List.mem_filter.mpr ⟨hmember, decide_eq_true fun hid => ?_⟩, hclears⟩
    rw [unique u hmember hid, ht] at hclears
    cases hclears

theorem others_delete (clear : t.isAllClear = true) :
    (rows.filter fun u => u.id ≠ t.id).filter (fun u => !u.isAllClear) =
      rows.filter fun u => !u.isAllClear := by
  rw [List.filter_filter]
  refine List.filter_congr fun u hu => ?_
  by_cases hid : u.id = t.id
  · rw [unique u hu hid, clear]
    rfl
  · simp [hid]

end

/-! ### Reactions -/

/-- A winner and what was done about it. -/
structure Reaction where
  winner : Tag
  transition : Option Transition

namespace Reaction

/-- Whether the alerting tag of an all-clear has won. -/
def trips (c : Concern) (e : Reaction) : Bool := e.winner.alarm?.any fun draft => draft.concern == c

def creates (c : Concern) (e : Reaction) : Bool := e.trips c && e.transition = some .created

def deletes (c : Concern) (e : Reaction) : Bool :=
  e.winner.clears c && e.transition = some .deleted

/-- Whether a reaction calls for the all-clear of a concern to be there afterwards or not. -/
def sign (c : Concern) (e : Reaction) : Option Bool :=
  if e.trips c then some true else if e.winner.clears c then some false else none

/-- The reactions to the all-clear of a concern and those that create it. -/
def swing (c : Concern) (e : Reaction) : Option Bool :=
  (e.sign c).filter fun b => !b || e.transition = some .created

end Reaction

/-- What a reaction may do to the stored tags. A winner that is out of date may be gone. -/
inductive Effect (rows : List Tag) : Reaction → List Tag → Prop
  | ignored {t : Tag} (equal : t.isThreshold = false) : Effect rows ⟨t, none⟩ rows
  | armed {t : Tag} {draft : TagDraft} (alarm : t.alarm? = some draft)
      (there : rows.any (·.clears draft.concern) = true) :
      Effect rows ⟨t, some .alreadyArmed⟩ rows
  | created {t : Tag} {draft : TagDraft} (alarm : t.alarm? = some draft)
      (absent : rows.any (·.clears draft.concern) = false) (id : Int) (now : Moment) :
      Effect rows ⟨t, some .created⟩ (rows ++ [draft.stored id now])
  | gone {t : Tag} (clear : t.isAllClear = true) (absent : t ∉ rows) :
      Effect rows ⟨t, some .alreadyCleared⟩ rows
  | deleted {t : Tag} (clear : t.isAllClear = true) (member : t ∈ rows)
      (unique : ∀ u ∈ rows, u.id = t.id → u = t) :
      Effect rows ⟨t, some .deleted⟩ (rows.filter fun u => u.id ≠ t.id)

namespace Reaction

theorem sign_of_alarm {e : Reaction} {draft : TagDraft} (alarm : e.winner.alarm? = some draft)
    (c : Concern) : e.sign c = if draft.concern == c then some true else none := by
  have hclear : e.winner.isAllClear = false := (Tag.alarm?_eq_some alarm).1
  simp only [sign, trips, alarm, Option.any_some, Tag.clears, hclear, Bool.false_and,
    Bool.false_eq_true, if_false]

theorem trips_of_clear {e : Reaction} (clear : e.winner.isAllClear = true) (c : Concern) :
    e.trips c = false := by
  rw [trips]
  cases h : e.winner.alarm? with
  | none => rfl
  | some draft =>
    rw [(Tag.alarm?_eq_some h).1] at clear
    cases clear

theorem sign_of_clear {e : Reaction} (clear : e.winner.isAllClear = true) (c : Concern) :
    e.sign c = if e.winner.clears c then some false else none := by
  rw [sign, trips_of_clear clear, if_neg Bool.false_ne_true]

theorem sign_of_equal {e : Reaction} (equal : e.winner.isThreshold = false) (c : Concern) :
    e.sign c = none := by
  simp only [sign, trips, Tag.alarm?, Tag.clears, Tag.isAllClear, equal, Bool.false_and,
    Bool.false_eq_true, if_false, Option.any_none]

end Reaction

namespace Effect

variable {rows after : List Tag} {e : Reaction}

/-- Only a winner that is not stored has been cleared already. -/
theorem present (h : Effect rows e after) (member : e.winner ∈ rows) :
    e.transition ≠ some .alreadyCleared := by
  cases h with
  | gone clear absent => exact absurd member absent
  | ignored | armed | created | deleted => exact nofun

theorem others (h : Effect rows e after) :
    after.filter (fun t => !t.isAllClear) = rows.filter fun t => !t.isAllClear := by
  cases h with
  | ignored | armed | gone => rfl
  | created alarm absent id now => exact others_append alarm id now
  | deleted clear member unique => exact others_delete unique clear

theorem unrepeated (h : Effect rows e after) (before : Unrepeated rows) : Unrepeated after := by
  cases h with
  | ignored | armed | gone => exact before
  | created alarm absent id now => exact before.append absent id now
  | deleted => exact before.filter _

/-- The sign of a reaction to a stored tag says whether the all-clear is there afterwards; without
a sign it is there if it was there before. -/
theorem any_clears (h : Effect rows e after) (present : e.transition ≠ some .alreadyCleared)
    (before : Unrepeated rows) (c : Concern) :
    after.any (·.clears c) = (e.sign c).getD (rows.any (·.clears c)) := by
  cases h with
  | ignored equal =>
    rw [Reaction.sign_of_equal equal]
    rfl
  | armed alarm there =>
    rw [Reaction.sign_of_alarm alarm]
    split
    · next same =>
      simp only [← Tag.clears_congr same, there]
      rfl
    · rfl
  | created alarm absent id now =>
    rw [any_clears_append alarm, Reaction.sign_of_alarm alarm]
    split
    · next same =>
      rw [same, Bool.or_true]
      rfl
    · next other =>
      rw [Bool.eq_false_iff.mpr other, Bool.or_false]
      rfl
  | gone => exact absurd rfl present
  | deleted clear member unique =>
    rw [any_clears_delete unique before member, Reaction.sign_of_clear clear]
    split
    · next same =>
      rw [same, Bool.not_true, Bool.and_false]
      rfl
    · next other =>
      rw [Bool.eq_false_iff.mpr other, Bool.not_false, Bool.and_true]
      rfl

/-- A swing leads from one state to the other. -/
theorem swing_eq_some (h : Effect rows e after) (present : e.transition ≠ some .alreadyCleared)
    (before : Unrepeated rows) {c : Concern} {b : Bool} (hswing : e.swing c = some b) :
    rows.any (·.clears c) = !b ∧ after.any (·.clears c) = b := by
  obtain ⟨hsign, hkind⟩ := Option.filter_eq_some_iff.mp hswing
  have hafter := h.any_clears present before c
  rw [hsign] at hafter
  refine ⟨?_, hafter⟩
  cases h with
  | ignored equal =>
    rw [Reaction.sign_of_equal equal] at hsign
    cases hsign
  | armed alarm there =>
    rw [Reaction.sign_of_alarm alarm] at hsign
    split at hsign
    · cases hsign
      simp at hkind
    · cases hsign
  | created alarm absent id now =>
    rw [Reaction.sign_of_alarm alarm] at hsign
    split at hsign
    · next same =>
      cases hsign
      simp only [← Tag.clears_congr same, absent]
      rfl
    · cases hsign
  | gone => exact absurd rfl present
  | deleted clear member unique =>
    rw [Reaction.sign_of_clear clear] at hsign
    split at hsign
    · next same =>
      cases hsign
      exact List.any_eq_true.mpr ⟨_, member, same⟩
    · cases hsign

theorem swing_eq_none (h : Effect rows e after) (present : e.transition ≠ some .alreadyCleared)
    (before : Unrepeated rows) {c : Concern} (hswing : e.swing c = none) :
    after.any (·.clears c) = rows.any (·.clears c) := by
  have hafter := h.any_clears present before c
  rw [Reaction.swing] at hswing
  cases h with
  | ignored | armed | gone => rfl
  | created alarm absent id now =>
    rw [Reaction.sign_of_alarm alarm] at hafter hswing
    split at hafter
    · next same => simp [same] at hswing
    · exact hafter
  | deleted clear member unique =>
    rw [Reaction.sign_of_clear clear] at hafter hswing
    split at hafter
    · next same => simp [same] at hswing
    · exact hafter

/-- Only a deletion takes an all-clear away. -/
theorem any_clears_of_not_deletes (h : Effect rows e after) (before : Unrepeated rows)
    {c : Concern} (there : rows.any (·.clears c) = true) (kept : e.deletes c = false) :
    after.any (·.clears c) = true := by
  cases h with
  | ignored | armed | gone => exact there
  | created alarm absent id now => rw [any_clears_append alarm, there, Bool.true_or]
  | @deleted t clear member unique =>
    have hother : t.clears c = false := by simpa [Reaction.deletes] using kept
    rw [any_clears_delete unique before member, there, hother]
    rfl

theorem any_clears_of_creates (h : Effect rows e after) {c : Concern}
    (hcreates : e.creates c = true) : after.any (·.clears c) = true := by
  cases h with
  | ignored | armed | gone | deleted => simp [Reaction.creates] at hcreates
  | created alarm absent id now =>
    obtain ⟨htrips, _⟩ := Bool.and_eq_true_iff.mp hcreates
    rw [Reaction.trips, alarm, Option.any_some] at htrips
    rw [any_clears_append alarm, htrips, Bool.or_true]

theorem armed_of_trips (h : Effect rows e after) {c : Concern} (htrips : e.trips c = true)
    (there : rows.any (·.clears c) = true) : e.transition = some .alreadyArmed := by
  cases h with
  | ignored equal => simp [Reaction.trips, Tag.alarm?, equal] at htrips
  | armed => rfl
  | created alarm absent id now =>
    rw [Reaction.trips, alarm, Option.any_some] at htrips
    simp only [Tag.clears_congr htrips, there] at absent
    cases absent
  | gone clear | deleted clear =>
    rw [Reaction.trips_of_clear clear] at htrips
    cases htrips

end Effect

/-! ### Histories -/

/-- Reactions that follow one another, from the tags that are stored first to those stored last. -/
inductive History : List Tag → List Reaction → List Tag → Prop
  | nil (rows : List Tag) : History rows [] rows
  | cons {rows next last : List Tag} {e : Reaction} {rest : List Reaction}
      (effect : Effect rows e next) (later : History next rest last) : History rows (e :: rest) last

namespace History

variable {first last : List Tag} {reactions : List Reaction}

theorem append {next : List Tag} {others : List Reaction} (h : History first reactions next)
    (later : History next others last) : History first (reactions ++ others) last := by
  induction h with
  | nil rows => exact later
  | cons effect _ ih => exact .cons effect (ih later)

theorem split {before later : List Reaction} (h : History first (before ++ later) last) :
    ∃ next, History first before next ∧ History next later last := by
  induction before generalizing first with
  | nil => exact ⟨first, .nil first, h⟩
  | cons e rest ih =>
    cases h with
    | cons effect others =>
      obtain ⟨next, hbefore, hlater⟩ := ih others
      exact ⟨next, .cons effect hbefore, hlater⟩

theorem others (h : History first reactions last) :
    last.filter (fun t => !t.isAllClear) = first.filter fun t => !t.isAllClear := by
  induction h with
  | nil rows => rfl
  | cons effect _ ih => rw [ih, effect.others]

theorem unrepeated (h : History first reactions last) (before : Unrepeated first) :
    Unrepeated last := by
  induction h with
  | nil rows => exact before
  | cons effect _ ih => exact ih (effect.unrepeated before)

/-- The latest sign decides. -/
theorem any_clears (h : History first reactions last)
    (present : ∀ e ∈ reactions, e.transition ≠ some .alreadyCleared) (before : Unrepeated first)
    (c : Concern) :
    last.any (·.clears c) =
      (reactions.filterMap (Reaction.sign c)).getLast?.getD (first.any (·.clears c)) := by
  induction h with
  | nil rows => rfl
  | @cons rows next last e rest effect _ ih =>
    obtain ⟨hfirst, hrest⟩ := List.forall_mem_cons.mp present
    rw [ih hrest (effect.unrepeated before), effect.any_clears hfirst before c,
      List.filterMap_cons]
    cases e.sign c with
    | none => rfl
    | some b => rw [List.getLast?_cons, Option.getD_some, Option.getD_some]

/-- Creations and clearances of one concern take turns. -/
theorem swings_alternate (h : History first reactions last)
    (present : ∀ e ∈ reactions, e.transition ≠ some .alreadyCleared) (before : Unrepeated first)
    (c : Concern) :
    (first.any (·.clears c) :: reactions.filterMap (Reaction.swing c)).IsChain (· ≠ ·) := by
  induction h with
  | nil rows => exact .singleton _
  | @cons rows next last e rest effect _ ih =>
    obtain ⟨hfirst, hrest⟩ := List.forall_mem_cons.mp present
    have hlater := ih hrest (effect.unrepeated before)
    rw [List.filterMap_cons]
    cases hswing : e.swing c with
    | none =>
      rw [effect.swing_eq_none hfirst before hswing] at hlater
      exact hlater
    | some b =>
      obtain ⟨hbefore, hafter⟩ := effect.swing_eq_some hfirst before hswing
      rw [hafter] at hlater
      rw [hbefore]
      exact .cons_cons (by cases b <;> decide) hlater

theorem any_clears_of_kept (h : History first reactions last) (before : Unrepeated first)
    {c : Concern} (there : first.any (·.clears c) = true)
    (kept : ∀ e ∈ reactions, e.deletes c = false) : last.any (·.clears c) = true := by
  induction h with
  | nil rows => exact there
  | cons effect _ ih =>
    obtain ⟨hfirst, hrest⟩ := List.forall_mem_cons.mp kept
    exact ih (effect.unrepeated before) (effect.any_clears_of_not_deletes before there hfirst) hrest

/-- Between the creation of an all-clear and its deletion, every other trip finds it. -/
theorem armed_between {before between later : List Reaction} {creation e : Reaction} {c : Concern}
    (h : History first (before ++ creation :: between ++ e :: later) last)
    (unrepeated : Unrepeated first) (created : creation.creates c = true)
    (kept : ∀ other ∈ between, other.deletes c = false) (tripped : e.trips c = true) :
    e.transition = some .alreadyArmed := by
  obtain ⟨_, hfirst, hlast⟩ := h.split
  obtain ⟨_, hbefore, hcreation⟩ := hfirst.split
  cases hcreation with
  | cons hcreates hbetween =>
    cases hlast with
    | cons heffect _ =>
      have hunrepeated := hcreates.unrepeated (hbefore.unrepeated unrepeated)
      have hthere := hcreates.any_clears_of_creates created
      exact heffect.armed_of_trips tripped (hbetween.any_clears_of_kept hunrepeated hthere kept)

end History

end DeviceAlerts
