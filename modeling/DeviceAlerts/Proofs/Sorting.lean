import DeviceAlerts.Sorting
import Mathlib.Data.List.InsertIdx
import Mathlib.Order.Lattice

/-! Sorting where no comparison fails. The result is then the usual one: when elements are compared
by keys of a linear order, they come out in the order of their keys, and those that share a key in
the order in which they were. -/

namespace DeviceAlerts.Sorting

variable {α ε : Type}

/-- What is kept is told by a test of the elements that it comes of. -/
theorem keep_map {β : Type} {test : β → Except ε Bool} {f : α → β} {p : α → Bool} {xs : List α}
    (h : ∀ x ∈ xs, test (f x) = .ok (p x)) : keep test (xs.map f) = .ok ((xs.filter p).map f) := by
  induction xs with
  | nil => rfl
  | cons x rest ih =>
    obtain ⟨hx, hrest⟩ := List.forall_mem_cons.mp h
    simp only [List.map_cons, keep, hx, ih hrest, List.filter_cons]
    cases p x <;> rfl

/-! ### Trials -/

section Trial

variable {less : α → α → Except ε Bool} {known : α → Prop}

theorem takeRun_ok (h : ∀ x y, known x → known y → ∃ b, less x y = .ok b) (down : Bool)
    {before : α} (first : known before) {rest : List α} (others : ∀ x ∈ rest, known x) :
    ∃ run later, takeRun less down before rest = .ok (run, later) ∧ run ++ later = rest := by
  induction rest generalizing before with
  | nil => exact ⟨[], [], rfl, rfl⟩
  | cons x rest ih =>
    obtain ⟨hx, hrest⟩ := List.forall_mem_cons.mp others
    obtain ⟨b, hb⟩ := h x before hx first
    obtain ⟨run, later, hrun, hsplit⟩ := ih hx hrest
    by_cases hdown : (b == down) = true
    · refine ⟨x :: run, later, ?_, congrArg (x :: ·) hsplit⟩
      simp only [takeRun, hb, hrun, bind, Except.bind, hdown, if_true]
      rfl
    · refine ⟨[], x :: rest, ?_, rfl⟩
      simp only [takeRun, hb, bind, Except.bind, hdown]
      rfl

theorem place_ok (h : ∀ x y, known x → known y → ∃ b, less x y = .ok b) {x : α} (hx : known x)
    {sorted : List α} (members : ∀ y ∈ sorted, known y) (low high : Nat) :
    ∃ i, place less x sorted low high = .ok i := by
  fun_induction place less x sorted low high with
  | case1 low high range absent => exact ⟨low, rfl⟩
  | case2 low high range y found left right =>
    obtain ⟨b, hb⟩ := h x y hx (members y (List.mem_of_getElem? found))
    simp only [hb, bind, Except.bind]
    cases b with
    | true => exact left
    | false => exact right
  | case3 low high empty => exact ⟨low, rfl⟩

theorem insertAll_ok (h : ∀ x y, known x → known y → ∃ b, less x y = .ok b) {sorted rest : List α}
    (members : ∀ y ∈ sorted, known y) (others : ∀ x ∈ rest, known x) :
    insertAll less sorted rest = .ok () := by
  induction rest generalizing sorted with
  | nil => rfl
  | cons x rest ih =>
    obtain ⟨hx, hrest⟩ := List.forall_mem_cons.mp others
    obtain ⟨i, hi⟩ := place_ok h hx members 0 sorted.length
    have grown : ∀ y ∈ sorted.insertIdx i x, known y := by
      intro y hy
      rcases List.eq_or_mem_of_mem_insertIdx hy with rfl | hy
      · exact hx
      · exact members y hy
    simp only [insertAll, hi, bind, Except.bind]
    exact ih grown hrest

/-- A sort fails only at a comparison. -/
theorem trial_ok (h : ∀ x y, known x → known y → ∃ b, less x y = .ok b) {xs : List α}
    (members : ∀ x ∈ xs, known x) : trial less xs = .ok () := by
  match xs with
  | [] | [_] => rfl
  | first :: second :: rest =>
    obtain ⟨hfirst, hlater⟩ := List.forall_mem_cons.mp members
    obtain ⟨hsecond, hrest⟩ := List.forall_mem_cons.mp hlater
    obtain ⟨down, hdown⟩ := h second first hsecond hfirst
    obtain ⟨run, later, hrun, rfl⟩ := takeRun_ok h down hsecond hrest
    obtain ⟨hrunning, hremaining⟩ := List.forall_mem_append.mp hrest
    have started : ∀ y ∈ first :: second :: run, known y :=
      List.forall_mem_cons.mpr ⟨hfirst, List.forall_mem_cons.mpr ⟨hsecond, hrunning⟩⟩
    simp only [trial, hdown, hrun, bind, Except.bind]
    refine insertAll_ok h (fun y hy => started y ?_) hremaining
    cases down with
    | true => exact List.mem_reverse.mp hy
    | false => exact hy

end Trial

/-! ### Sorting by keys -/

section Key

variable {β κ : Type} [LinearOrder κ]

theorem comparable_map {less : β → β → Except ε Bool} {f : α → β} {key : α → κ} {xs : List α}
    (h : ∀ x ∈ xs, ∀ y ∈ xs, less (f x) (f y) = .ok (decide (key x < key y))) (x y : β)
    (hx : x ∈ xs.map f) (hy : y ∈ xs.map f) : ∃ b, less x y = .ok b := by
  obtain ⟨a, ha, rfl⟩ := List.mem_map.mp hx
  obtain ⟨b, hb, rfl⟩ := List.mem_map.mp hy
  exact ⟨_, h a ha b hb⟩

/-- What is compared by keys of the elements that it comes of is sorted by these keys. -/
theorem ascending_map {less : β → β → Except ε Bool} {f : α → β} {key : α → κ} {xs : List α}
    (h : ∀ x ∈ xs, ∀ y ∈ xs, less (f x) (f y) = .ok (decide (key x < key y))) :
    ascending less (xs.map f) = .ok ((xs.mergeSort fun a b => decide (key a ≤ key b)).map f) := by
  have sorted : (xs.map f).mergeSort (fun a b => !holds (less b a)) =
      (xs.mergeSort fun a b => decide (key a ≤ key b)).map f := by
    refine (List.map_mergeSort fun a ha b hb => ?_).symm
    simp only [h b hb a ha, holds, ← not_lt, decide_not]
  rw [ascending, trial_ok (comparable_map h) fun _ hx => hx, sorted]
  rfl

/-- The same downwards, where the comparisons are made from the end of the list on. -/
theorem descending_map {less : β → β → Except ε Bool} {f : α → β} {key : α → κ} {xs : List α}
    (h : ∀ x ∈ xs, ∀ y ∈ xs, less (f x) (f y) = .ok (decide (key x < key y))) :
    descending less (xs.map f) = .ok ((xs.mergeSort fun a b => decide (key b ≤ key a)).map f) := by
  have sorted : (xs.map f).mergeSort (fun a b => !holds (less a b)) =
      (xs.mergeSort fun a b => decide (key b ≤ key a)).map f := by
    refine (List.map_mergeSort fun a ha b hb => ?_).symm
    simp only [h a ha b hb, holds, ← not_lt, decide_not]
  rw [descending, trial_ok (comparable_map h) fun _ hx => List.mem_reverse.mp hx, sorted]
  rfl

theorem pairwise_mergeSort_key (key : α → κ) (xs : List α) :
    (xs.mergeSort fun a b => decide (key a ≤ key b)).Pairwise fun a b => key a ≤ key b := by
  have sorted := @List.pairwise_mergeSort _ (fun a b => decide (key a ≤ key b))
    (fun a b c hab hbc => decide_eq_true (le_trans (of_decide_eq_true hab) (of_decide_eq_true hbc)))
    (fun a b => by simpa using le_total (key a) (key b)) xs
  exact sorted.imp of_decide_eq_true

/-- Sorting by keys that no two elements share does not depend on the order at first. -/
theorem mergeSort_key_congr {key : α → κ} (apart : Function.Injective key) {xs ys : List α}
    (h : xs.Perm ys) : (xs.mergeSort fun a b => decide (key a ≤ key b)) =
      ys.mergeSort fun a b => decide (key a ≤ key b) := by
  refine List.Perm.eq_of_pairwise (fun a b _ _ hab hba => apart (le_antisymm hab hba))
    (pairwise_mergeSort_key key xs) (pairwise_mergeSort_key key ys) ?_
  exact ((List.mergeSort_perm xs _).trans h).trans (List.mergeSort_perm ys _).symm

/-- Elements may be left out before they are sorted or afterwards. -/
theorem filter_mergeSort_key {key : α → κ} (apart : Function.Injective key) (p : α → Bool)
    (xs : List α) : ((xs.filter p).mergeSort fun a b => decide (key a ≤ key b)) =
      (xs.mergeSort fun a b => decide (key a ≤ key b)).filter p := by
  refine List.Perm.eq_of_pairwise (fun a b _ _ hab hba => apart (le_antisymm hab hba))
    (pairwise_mergeSort_key key _) ((pairwise_mergeSort_key key xs).filter p) ?_
  exact (List.mergeSort_perm _ _).trans ((List.mergeSort_perm xs _).symm.filter p)

end Key

/-! ### Elements that share a key -/

/-- Elements that neither comes before the other keep the order that they had. -/
theorem pairwise_mergeSort_stable {le : α → α → Bool}
    (trans : ∀ a b c, le a b = true → le b c = true → le a c = true)
    (total : ∀ a b, (le a b || le b a) = true) {before : α → α → Prop} {xs : List α}
    (h : xs.Pairwise before) :
    (xs.mergeSort le).Pairwise fun a b => le a b = true ∧ (le b a = true → before a b) := by
  -- every element is sorted together with its place, and no two have the same place
  rw [← List.mergeSort_zipIdx, List.pairwise_map]
  have members := List.mergeSort_perm xs.zipIdx (List.zipIdxLE le)
  have sorted := List.pairwise_mergeSort (List.zipIdxLE_trans trans) (List.zipIdxLE_total total)
    xs.zipIdx
  have places : (xs.zipIdx.map Prod.snd).Pairwise (· ≠ ·) := by
    rw [List.zipIdx_map_snd]
    exact List.nodup_range'
  have apart : xs.zipIdx.Pairwise fun a b => a.2 ≠ b.2 := List.pairwise_map.mp places
  have apart := (members.pairwise_iff fun h => h.symm).mpr apart
  refine (sorted.and apart).imp_of_mem fun {a b} ha hb hab => ?_
  obtain ⟨ordered, other⟩ := hab
  unfold List.zipIdxLE at ordered
  by_cases hle : le a.1 b.1 = true
  · refine ⟨hle, fun back => ?_⟩
    rw [if_pos hle, if_pos back, decide_eq_true_eq] at ordered
    obtain ⟨_, hi, hfirst⟩ := List.mem_zipIdx (members.mem_iff.mp ha)
    obtain ⟨_, hj, hsecond⟩ := List.mem_zipIdx (members.mem_iff.mp hb)
    rw [hfirst, hsecond]
    exact List.pairwise_iff_getElem.mp h _ _ _ _ (by omega)
  · rw [if_neg hle] at ordered
    cases ordered

end DeviceAlerts.Sorting
