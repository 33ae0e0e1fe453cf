import DeviceAlerts.Datum.Order
import DeviceAlerts.Proofs.Datum.Likeness
import Mathlib.Data.Prod.Lex
import Mathlib.Data.String.Basic

/-! The order of values whose kinds are known. Integers, texts and placed moments can always be
compared, and keys that begin with integers and texts are in lexicographic order. The extremes of
several moments are among them. -/

namespace DeviceAlerts

open DeviceAlerts.Time

namespace Relation

@[simp] theorem admits_below (i j : Int) : below.admits (compare i j) = decide (i < j) := by
  rw [admits, Bool.eq_iff_iff, decide_eq_true_iff, Ordering.isLT_iff_eq_lt, Int.compare_eq_lt]

@[simp] theorem admits_above (i j : Int) : above.admits (compare i j) = decide (j < i) := by
  rw [admits, Bool.eq_iff_iff, decide_eq_true_iff, Ordering.isGT_iff_eq_gt, Int.compare_eq_gt]

@[simp] theorem admits_notBelow (i j : Int) : notBelow.admits (compare i j) = decide (j ≤ i) := by
  rw [admits, Bool.eq_iff_iff, decide_eq_true_iff, Int.isGE_compare]

@[simp] theorem admits_notAbove (i j : Int) : notAbove.admits (compare i j) = decide (i ≤ j) := by
  rw [admits, Bool.eq_iff_iff, decide_eq_true_iff, Int.isLE_compare]

end Relation

namespace Datum

/-! ### Integers and texts -/

theorem stands_int (r : Relation) (i j : Int) :
    stands r (int i) (int j) = .ok (r.admits (compare i j)) := by
  simp [stands, order, ratio?, orderOfRatios, Except.map]

theorem alike_int (i j : Int) : alike (int i) (int j) = decide (i = j) := by
  rw [Bool.eq_iff_iff, decide_eq_true_iff]
  exact int_beq_int

theorem alike_text (s t : String) : alike (text s) (text t) = decide (s = t) := text_beq_text s t

theorem stands_below_text (s t : String) :
    stands .below (text s) (text t) = .ok (decide (s < t)) := by
  have h : (orderOfTexts s t).isLT = decide (s < t) := by
    unfold orderOfTexts
    split
    · next below => rw [decide_eq_true below]; rfl
    · next above =>
      rw [decide_eq_false above]
      split <;> rfl
  simp [stands, order, Except.map, Relation.admits, h]

/-! ### Keys -/

theorem keyBelow_int_cons (i j : Int) (xs ys : List Datum) : keyBelow (int i :: xs) (int j :: ys) =
    if i = j then keyBelow xs ys else .ok (decide (i < j)) := by
  simp only [keyBelow, standsItems, alike_int, decide_eq_true_eq, stands_int,
    Relation.admits_below]

theorem keyBelow_text_cons (s t : String) (xs ys : List Datum) :
    keyBelow (text s :: xs) (text t :: ys) =
      if s = t then keyBelow xs ys else .ok (decide (s < t)) := by
  simp only [keyBelow, standsItems, alike_text, decide_eq_true_eq, stands_below_text]

theorem keyBelow_int (i j : Int) : keyBelow [int i] [int j] = .ok (decide (i < j)) := by
  rw [keyBelow_int_cons]
  split
  · next same => rw [same, decide_eq_false (lt_irrefl j)]; rfl
  · rfl

theorem keyBelow_text (s t : String) : keyBelow [text s] [text t] = .ok (decide (s < t)) := by
  rw [keyBelow_text_cons]
  split
  · next same => rw [same, decide_eq_false (lt_irrefl t)]; rfl
  · rfl

section

variable {κ : Type} [LinearOrder κ] {xs ys : List Datum} {a b : κ}

theorem decide_toLex_lt {ι : Type} [LinearOrder ι] (i j : ι) :
    decide (toLex (i, a) < toLex (j, b)) = if i = j then decide (a < b) else decide (i < j) := by
  split
  · next same => simp [Prod.Lex.toLex_lt_toLex, same]
  · next other => simp [Prod.Lex.toLex_lt_toLex, other]

theorem keyBelow_int_lex (h : keyBelow xs ys = .ok (decide (a < b))) (i j : Int) :
    keyBelow (int i :: xs) (int j :: ys) = .ok (decide (toLex (i, a) < toLex (j, b))) := by
  rw [keyBelow_int_cons, h, decide_toLex_lt]
  split <;> rfl

theorem keyBelow_text_lex (h : keyBelow xs ys = .ok (decide (a < b))) (s t : String) :
    keyBelow (text s :: xs) (text t :: ys) = .ok (decide (toLex (s, a) < toLex (t, b))) := by
  rw [keyBelow_text_cons, h, decide_toLex_lt]
  split <;> rfl

end

/-! ### Moments -/

theorem stands_moment_iff (r : Relation) {m n : Moment} {b : Bool} :
    stands r (moment m) (moment n) = .ok b ↔
      m.isPlaced = n.isPlaced ∧ r.admits (compare m.instant n.instant) = b := by
  by_cases clocks : m.isPlaced = n.isPlaced
  · simp [stands, order, Moment.isComparable, clocks, Except.map]
  · simp [stands, order, Moment.isComparable, clocks, Except.map]

theorem stands_moment (r : Relation) {m n : Moment} (hm : m.isPlaced = true)
    (hn : n.isPlaced = true) : stands r (moment m) (moment n) =
      .ok (r.admits (compare m.instant n.instant)) :=
  (stands_moment_iff r).mpr ⟨hm.trans hn.symm, rfl⟩

/-- Moments count as the same when they are one instant, and both say where their clocks stand or
both do not. -/
def SameMoment (m n : Moment) : Prop := m.instant = n.instant ∧ m.isPlaced = n.isPlaced

theorem moment_beq_iff {m n : Moment} : (moment m == moment n) = true ↔ SameMoment m n := by
  have offset (x : Moment) : x.offset.map (fun _ => (0 : Int)) =
      if x.isPlaced then some 0 else none := by
    cases h : x.offset <;> simp [Moment.isPlaced, h]
  rw [beq_iff]
  simp only [canonical, Moment.normal, hasPart, isNaN, moment.injEq, Moment.mk.injEq, offset,
    and_true]
  refine and_congr_right fun _ => ?_
  cases m.isPlaced <;> cases n.isPlaced <;> simp

/-- Placed moments are alike when they are the same instant. -/
theorem moment_beq_moment {m n : Moment} (hm : m.isPlaced = true) (hn : n.isPlaced = true)
    (same : m.instant = n.instant) : (moment m == moment n) = true :=
  moment_beq_iff.mpr ⟨same, hm.trans hn.symm⟩

/-! ### Extremes of moments -/

/-- A value says which of several instants comes before all others in an order, or nothing when
there are none. -/
inductive Extreme (before : Int → Int → Prop) (instants : List Int) : Datum → Prop
  | none (empty : instants = []) : Extreme before instants .null
  | some {m : Moment} (placed : m.isPlaced = true) (member : m.instant ∈ instants)
      (bound : ∀ i ∈ instants, before m.instant i) : Extreme before instants (.moment m)

/-- One of several moments comes before all others in an order, and all can be compared with it;
or there are none. -/
inductive Foremost (before : Int → Int → Prop) (moments : List Moment) : Option Moment → Prop
  | none (empty : moments = []) : Foremost before moments none
  | some {m : Moment} (member : m ∈ moments) (clocks : ∀ x ∈ moments, x.isPlaced = m.isPlaced)
      (bound : ∀ x ∈ moments, before m.instant x.instant) : Foremost before moments (some m)

/-- Values are gone through with a relation that is the strict part of an order. -/
structure Picks (pick : Datum → List Datum → Except Misuse Datum)
    (pick? : List Datum → Except Misuse (Option Datum)) (r : Relation)
    (before : Int → Int → Prop) : Prop where
  stop (best : Datum) : pick best [] = .ok best
  go (best d : Datum) (rest : List Datum) : pick best (d :: rest) = do
    let isCloser ← stands r d best
    pick (if isCloser then d else best) rest
  nothing : pick? [] = .ok none
  start (d : Datum) (rest : List Datum) : pick? (d :: rest) = (pick d rest).map some
  closer {i j : Int} : r.admits (compare i j) = true → before i j
  notCloser {i j : Int} : ¬ r.admits (compare i j) = true → before j i

theorem picks_least : Picks least least? .below (· ≤ ·) where
  stop _ := rfl
  go _ _ _ := rfl
  nothing := rfl
  start _ _ := rfl
  closer h := by simp at h; omega
  notCloser h := by simpa using h

theorem picks_greatest : Picks greatest greatest? .above (· ≥ ·) where
  stop _ := rfl
  go _ _ _ := rfl
  nothing := rfl
  start _ _ := rfl
  closer h := by simp at h; omega
  notCloser h := by simpa using h

namespace Picks

variable {pick : Datum → List Datum → Except Misuse Datum}
  {pick? : List Datum → Except Misuse (Option Datum)} {r : Relation} {before : Int → Int → Prop}
  (picks : Picks pick pick? r before)

include picks

/-- Going through moments that can be compared, one ends at one that comes before all others. -/
theorem moments [IsTrans Int before] {best : Moment} {rest : List Moment}
    (clocks : ∀ m ∈ rest, m.isPlaced = best.isPlaced) : ∃ m ∈ best :: rest,
      pick (moment best) (rest.map moment) = .ok (moment m) ∧ m.isPlaced = best.isPlaced ∧
        ∀ x ∈ best :: rest, before m.instant x.instant := by
  induction rest generalizing best with
  | nil =>
    have self : before best.instant best.instant := by
      by_cases h : r.admits (compare best.instant best.instant) = true
      · exact picks.closer h
      · exact picks.notCloser h
    exact ⟨best, List.mem_cons_self, picks.stop _, rfl, by simpa using self⟩
  | cons m rest ih =>
    obtain ⟨hm, hrest⟩ := List.forall_mem_cons.mp clocks
    rw [List.map_cons, picks.go, (stands_moment_iff r).mpr ⟨hm, rfl⟩]
    by_cases hcloser : r.admits (compare m.instant best.instant) = true
    · obtain ⟨found, member, hfound, hclock, bound⟩ := ih fun x hx => (hrest x hx).trans hm.symm
      have hbest := IsTrans.trans _ _ _ (List.forall_mem_cons.mp bound).1 (picks.closer hcloser)
      refine ⟨found, List.mem_cons_of_mem _ member, ?_, hclock.trans hm,
        List.forall_mem_cons.mpr ⟨hbest, bound⟩⟩
      simpa [bind, Except.bind, hcloser] using hfound
    · obtain ⟨found, member, hfound, hclock, bound⟩ := ih hrest
      obtain ⟨hbest, hothers⟩ := List.forall_mem_cons.mp bound
      have hskipped := IsTrans.trans _ _ _ hbest (picks.notCloser hcloser)
      refine ⟨found, ?_, by simpa [bind, Except.bind, hcloser] using hfound, hclock,
        List.forall_mem_cons.mpr ⟨hbest, List.forall_mem_cons.mpr ⟨hskipped, hothers⟩⟩⟩
      rcases List.mem_cons.mp member with rfl | member
      · exact List.mem_cons_self
      · exact List.mem_cons_of_mem _ (List.mem_cons_of_mem _ member)

/-- One only gets through moments that can all be compared. -/
theorem clocks {best : Moment} {rest : List Moment} {d : Datum}
    (run : pick (moment best) (rest.map moment) = .ok d) :
    ∀ m ∈ rest, m.isPlaced = best.isPlaced := by
  induction rest generalizing best with
  | nil => nofun
  | cons m rest ih =>
    rw [List.map_cons, picks.go] at run
    cases compared : stands r (moment m) (moment best) with
    | error e => rw [compared] at run; cases run
    | ok isCloser =>
      obtain ⟨hm, -⟩ := (stands_moment_iff r).mp compared
      rw [compared] at run
      refine List.forall_mem_cons.mpr ⟨hm, ?_⟩
      cases isCloser with
      | false => exact ih run
      | true => exact fun x hx => (ih run x hx).trans hm

theorem exists_foremost [IsTrans Int before] {moments : List Moment}
    (clocks : ∀ x ∈ moments, ∀ y ∈ moments, x.isPlaced = y.isPlaced) :
    ∃ found, pick? (moments.map moment) = .ok (found.map moment) ∧
      Foremost before moments found := by
  cases moments with
  | nil => exact ⟨none, picks.nothing, .none rfl⟩
  | cons best rest =>
    obtain ⟨m, member, hm, -, bound⟩ := picks.moments fun x hx =>
      clocks x (List.mem_cons_of_mem _ hx) best List.mem_cons_self
    exact ⟨some m, by rw [List.map_cons, picks.start, hm]; rfl,
      .some member (fun x hx => clocks x hx m member) bound⟩

theorem foremost [IsTrans Int before] {moments : List Moment} {found : Option Datum}
    (run : pick? (moments.map moment) = .ok found) :
    ∃ m : Option Moment, found = m.map moment ∧ Foremost before moments m := by
  have comparable : ∀ x ∈ moments, ∀ y ∈ moments, x.isPlaced = y.isPlaced := by
    cases moments with
    | nil => nofun
    | cons best rest =>
      rw [List.map_cons, picks.start] at run
      cases hpick : pick (moment best) (rest.map moment) with
      | error e => rw [hpick] at run; cases run
      | ok d =>
        have same : ∀ m ∈ best :: rest, m.isPlaced = best.isPlaced :=
          List.forall_mem_cons.mpr ⟨rfl, picks.clocks hpick⟩
        exact fun x hx y hy => (same x hx).trans (same y hy).symm
  obtain ⟨m, hm, isForemost⟩ := picks.exists_foremost comparable
  exact ⟨m, Except.ok.inj (run.symm.trans hm), isForemost⟩

theorem extreme [IsTrans Int before] {moments : List Moment}
    (placed : ∀ m ∈ moments, m.isPlaced = true) : ∃ found,
      pick? (moments.map moment) = .ok found ∧
        Extreme before (moments.map Moment.instant) (found.getD .null) := by
  obtain ⟨found, hfound, isForemost⟩ := picks.exists_foremost
    fun x hx y hy => (placed x hx).trans (placed y hy).symm
  refine ⟨_, hfound, ?_⟩
  cases isForemost with
  | none empty => exact .none (by rw [empty]; rfl)
  | some member _ bound =>
    exact .some (placed _ member) (List.mem_map_of_mem member) (List.forall_mem_map.mpr bound)

end Picks

/-- The least of several placed moments is the earliest. -/
theorem extreme_least? {moments : List Moment} (placed : ∀ m ∈ moments, m.isPlaced = true) :
    ∃ found, least? (moments.map moment) = .ok found ∧
      Extreme (· ≤ ·) (moments.map Moment.instant) (found.getD .null) :=
  picks_least.extreme placed

/-- The greatest of several placed moments is the latest. -/
theorem extreme_greatest? {moments : List Moment} (placed : ∀ m ∈ moments, m.isPlaced = true) :
    ∃ found, greatest? (moments.map moment) = .ok found ∧
      Extreme (· ≥ ·) (moments.map Moment.instant) (found.getD .null) :=
  picks_greatest.extreme placed

theorem Foremost.same {before : Int → Int → Prop} [Std.Antisymm before] {xs ys : List Moment}
    (perm : xs.Perm ys) {a b : Option Moment} (ha : Foremost before xs a)
    (hb : Foremost before ys b) : Option.Rel SameMoment a b := by
  cases ha with
  | none empty =>
    rw [empty, List.nil_perm] at perm
    cases hb with
    | none => exact .none
    | some member => exact absurd (perm ▸ member) List.not_mem_nil
  | some member clocks bound =>
    cases hb with
    | none empty => exact absurd (empty ▸ perm.mem_iff.mp member) List.not_mem_nil
    | some member' clocks' bound' =>
      have one := perm.mem_iff.mpr member'
      exact .some ⟨antisymm (bound _ one) (bound' _ (perm.mem_iff.mp member)), (clocks _ one).symm⟩

/-- The order in which moments are gone through does not matter. -/
theorem Picks.perm {pick : Datum → List Datum → Except Misuse Datum}
    {pick? : List Datum → Except Misuse (Option Datum)} {r : Relation} {before : Int → Int → Prop}
    (picks : Picks pick pick? r before) [IsTrans Int before] [Std.Antisymm before]
    {xs ys : List Moment} (perm : xs.Perm ys) {found : Option Datum}
    (run : pick? (xs.map moment) = .ok found) : ∃ m n : Option Moment,
      found = m.map moment ∧ pick? (ys.map moment) = .ok (n.map moment) ∧
        Option.Rel SameMoment m n := by
  obtain ⟨m, hm, isForemost⟩ := picks.foremost run
  have comparable : ∀ x ∈ ys, ∀ y ∈ ys, x.isPlaced = y.isPlaced := by
    intro x hx y hy
    cases isForemost with
    | none empty => exact absurd (empty ▸ perm.mem_iff.mpr hx) List.not_mem_nil
    | some _ clocks _ =>
      exact (clocks x (perm.mem_iff.mpr hx)).trans (clocks y (perm.mem_iff.mpr hy)).symm
  obtain ⟨n, hn, isForemost'⟩ := picks.exists_foremost comparable
  exact ⟨m, n, hm, hn, isForemost.same perm isForemost'⟩

namespace Extreme

variable {before : Int → Int → Prop}

/-- Two values that say the same of the same instants are alike. -/
theorem alike [Std.Antisymm before] {instants : List Int} {a b : Datum}
    (ha : Extreme before instants a) (hb : Extreme before instants b) : (a == b) = true := by
  cases ha with
  | none empty =>
    cases hb with
    | none => rfl
    | some placed member bound => simp [empty] at member
  | some placed member bound =>
    cases hb with
    | none empty => simp [empty] at member
    | some placed' member' bound' =>
      exact moment_beq_moment placed placed' (antisymm (bound _ member') (bound' _ member))

theorem perm {xs ys : List Int} (same : xs.Perm ys) {d : Datum} (h : Extreme before xs d) :
    Extreme before ys d := by
  cases h with
  | none empty => exact .none (List.perm_nil.mp (empty ▸ same.symm))
  | some placed member bound =>
    exact .some placed (same.mem_iff.mp member) fun i hi => bound i (same.mem_iff.mpr hi)

/-- An extreme of some of the instants, one of which comes before each of them all, is an extreme of
them all. -/
theorem widen [IsTrans Int before] {some all : List Int} (among : ∀ i ∈ some, i ∈ all)
    (ahead : ∀ i ∈ all, ∃ j ∈ some, before j i) {d : Datum} (h : Extreme before some d) :
    Extreme before all d := by
  cases h with
  | none empty =>
    refine .none (List.eq_nil_iff_forall_not_mem.mpr fun i hi => ?_)
    obtain ⟨j, hj, _⟩ := ahead i hi
    simp [empty] at hj
  | some placed member bound =>
    refine .some placed (among _ member) fun i hi => ?_
    obtain ⟨j, hj, hji⟩ := ahead i hi
    exact IsTrans.trans _ _ _ (bound j hj) hji

/-- What is not null among the extremes of several parts are moments, and an extreme of these is one
of all parts together. -/
theorem of_parts [IsTrans Int before] {parts : List (List Int)} {ds : List Datum}
    (h : List.Forall₂ (Extreme before) parts ds) :
    ∃ moments : List Moment, ds.filter (fun d => d ≠ .null) = moments.map moment ∧
      (∀ m ∈ moments, m.isPlaced = true) ∧
      ∀ d, Extreme before (moments.map Moment.instant) d → Extreme before parts.flatten d := by
  suffices hmoments : ∃ moments : List Moment,
      ds.filter (fun d => d ≠ .null) = moments.map moment ∧ (∀ m ∈ moments, m.isPlaced = true) ∧
        (∀ m ∈ moments, m.instant ∈ parts.flatten) ∧
        ∀ i ∈ parts.flatten, ∃ m ∈ moments, before m.instant i by
    obtain ⟨moments, hfilter, placed, among, ahead⟩ := hmoments
    refine ⟨moments, hfilter, placed, fun d hd => hd.widen (List.forall_mem_map.mpr among) ?_⟩
    intro i hi
    obtain ⟨m, hm, hmi⟩ := ahead i hi
    exact ⟨_, List.mem_map_of_mem hm, hmi⟩
  induction h with
  | nil => exact ⟨[], rfl, nofun, nofun, nofun⟩
  | cons hpart hparts ih =>
    obtain ⟨moments, hfilter, placed, among, ahead⟩ := ih
    cases hpart with
    | none empty =>
      rw [empty, List.flatten_cons, List.nil_append]
      exact ⟨moments, hfilter, placed, among, ahead⟩
    | @some m hplaced member bound =>
      refine ⟨m :: moments, by rw [List.filter_cons_of_pos (by simp), hfilter, List.map_cons],
        List.forall_mem_cons.mpr ⟨hplaced, placed⟩, ?_, ?_⟩
      · exact List.forall_mem_cons.mpr ⟨List.mem_append_left _ member,
          fun x hx => List.mem_append_right _ (among x hx)⟩
      · intro i hi
        rcases List.mem_append.mp hi with hi | hi
        · exact ⟨m, List.mem_cons_self, bound i hi⟩
        · obtain ⟨x, hx, hxi⟩ := ahead i hi
          exact ⟨x, List.mem_cons_of_mem _ hx, hxi⟩

end Extreme

end Datum

end DeviceAlerts
