import DeviceAlerts.Datum
import Mathlib.Data.Int.ConditionallyCompleteOrder
import Mathlib.Data.List.Basic
import Mathlib.Logic.Encodable.Basic
import Mathlib.Order.ConditionallyCompleteLattice.Basic

/-! Numbers that are given again. When some of those who were given numbers are left out, the others
are given consecutive numbers in the same order; when numbers are used up in between, those who were
given consecutive numbers are given others, also in the same order. -/

namespace DeviceAlerts

/-! ### Values as numbers -/

def Datum.renumbered (f : Int → Int) : Datum → Datum
  | .int i => .int (f i)
  | d => d

theorem Datum.renumbered_injective {f : Int → Int} (inj : f.Injective) :
    (Datum.renumbered f).Injective := by
  intro a b same
  cases a <;> cases b <;> simp_all [Datum.renumbered, inj.eq_iff]

namespace Numbering

/-! ### Closing gaps -/

/-- Consecutive numbers from a first one on. -/
def Tracks (f : Int → Int) : Int → List Int → Prop
  | _, [] => True
  | first, i :: rest => f i = first ∧ Tracks f (first + 1) rest

/-- Some numbers stay, others are counted from a first one on, and the rest comes after all that
are counted. -/
def packed (kept : Int → Prop) [DecidablePred kept] (first : Int) (counted : List Int) (i : Int) :
    Int :=
  if kept i then i
  else if i ∈ counted then first + counted.idxOf i
  else first + counted.length + Encodable.encode i

variable {kept : Int → Prop} [DecidablePred kept] {first : Int} {counted : List Int}

theorem packed_of_kept {i : Int} (h : kept i) : packed kept first counted i = i := if_pos h

theorem le_packed {i : Int} (h : ¬ kept i) : first ≤ packed kept first counted i := by
  rw [packed, if_neg h]
  split <;> omega

section

variable (below : ∀ i, kept i → i < first)

include below

theorem injective_packed : (packed kept first counted).Injective := by
  have bound {k : Int} (h : k ∈ counted) : counted.idxOf k < counted.length :=
    List.idxOf_lt_length_of_mem h
  -- kept numbers come before those that are counted, and these before the rest
  intro i j same
  by_cases hi : kept i <;> by_cases hj : kept j
  · rwa [packed_of_kept hi, packed_of_kept hj] at same
  · have := below i hi
    unfold packed at same
    rw [if_pos hi, if_neg hj] at same
    split at same <;> omega
  · have := below j hj
    unfold packed at same
    rw [if_pos hj, if_neg hi] at same
    split at same <;> omega
  · unfold packed at same
    rw [if_neg hi, if_neg hj] at same
    by_cases ci : i ∈ counted <;> by_cases cj : j ∈ counted
    · rw [if_pos ci, if_pos cj] at same
      exact (List.idxOf_inj ci).mp (by omega)
    · rw [if_pos ci, if_neg cj] at same
      have := bound ci
      omega
    · rw [if_neg ci, if_pos cj] at same
      have := bound cj
      omega
    · rw [if_neg ci, if_neg cj] at same
      exact Encodable.encode_injective (by omega)

variable (above : ∀ i ∈ counted, first ≤ i)

include above

theorem packed_of_mem {i : Int} (h : i ∈ counted) :
    packed kept first counted i = first + counted.idxOf i := by
  rw [packed, if_neg fun hkept => (below i hkept).not_ge (above i h), if_pos h]

variable (sorted : counted.Pairwise (· < ·))

include sorted

theorem strictMonoOn_packed :
    StrictMonoOn (packed kept first counted) {i | kept i ∨ i ∈ counted} := by
  rintro i (hi | hi) j (hj | hj) hlt
  · rwa [packed_of_kept hi, packed_of_kept hj]
  · rw [packed_of_kept hi, packed_of_mem below above hj]
    have := below i hi
    omega
  · exact absurd ((below j hj).trans_le (above i hi)) hlt.not_gt
  · rw [packed_of_mem below above hi, packed_of_mem below above hj]
    have hbefore : counted.idxOf i < counted.idxOf j := by
      by_contra hle
      rcases (not_lt.mp hle).lt_or_eq with hless | hsame
      · have hless := List.pairwise_iff_getElem.mp sorted _ _ (List.idxOf_lt_length_of_mem hj)
          (List.idxOf_lt_length_of_mem hi) hless
        rw [List.getElem_idxOf, List.getElem_idxOf] at hless
        exact hless.not_gt hlt
      · exact hlt.ne' ((List.idxOf_inj hj).mp hsame)
    omega

theorem tracks_packed : Tracks (packed kept first counted) first counted := by
  suffices tracks : ∀ before rest, counted = before ++ rest →
      Tracks (packed kept first counted) (first + before.length) rest by
    simpa using tracks [] counted rfl
  intro before rest
  induction rest generalizing before with
  | nil => exact fun _ => trivial
  | cons i rest ih =>
    intro split
    have member : i ∈ counted := split ▸ List.mem_append_right _ List.mem_cons_self
    have fresh : i ∉ before := fun h => by
      rw [split, List.pairwise_append] at sorted
      exact lt_irrefl i (sorted.2.2 i h i List.mem_cons_self)
    refine ⟨?_, ?_⟩
    · rw [packed_of_mem below above member, split, List.idxOf_append_of_notMem fresh,
        List.idxOf_cons_self, Nat.add_zero]
    · have hrest := ih (before ++ [i]) (by rw [split, List.append_assoc, List.singleton_append])
      rwa [List.length_append, List.length_singleton, Int.natCast_add, Int.natCast_one,
        ← Int.add_assoc] at hrest

end

/-! ### Leaving gaps -/

/-- Numbers from a first one on become those of a list, one after the other. -/
def Follows (f : Int → Int) (first : Int) (numbers : List Int) : Prop :=
  ∀ (k : Nat) (n : Int), numbers[k]? = some n → f (first + k) = n

theorem follows_cons {f : Int → Int} {n : Int} {rest : List Int} :
    Follows f first (n :: rest) ↔ f first = n ∧ Follows f (first + 1) rest := by
  constructor
  · refine fun h => ⟨by simpa using h 0 n rfl, fun k m hm => ?_⟩
    rw [← h (k + 1) m hm, Int.natCast_add, Int.natCast_one, Int.add_assoc, Int.add_comm 1]
  · rintro ⟨hn, hrest⟩ k m hm
    cases k with
    | zero =>
      obtain rfl := Option.some.inj hm
      simpa using hn
    | succ k =>
      rw [← hrest k m hm, Int.natCast_add, Int.natCast_one, Int.add_assoc, Int.add_comm 1]

/-- Numbers from a first one on become those of a list; before it and after the list they are
shifted. -/
def spread : Int → Int → List Int → Int → Int
  | _, shift, [], i => i + shift
  | first, shift, n :: rest, i =>
    if i < first then i + shift else spread (first + 1) (n - first) rest i

section

variable {shift : Int} {numbers : List Int}

theorem spread_of_lt {i : Int} (h : i < first) : spread first shift numbers i = i + shift := by
  cases numbers with
  | nil => rfl
  | cons n rest => exact if_pos h

theorem follows_spread (first shift : Int) (numbers : List Int) :
    Follows (spread first shift numbers) first numbers := by
  induction numbers generalizing first shift with
  | nil => exact nofun
  | cons n rest ih =>
    refine follows_cons.mpr ⟨?_, fun k m hm => ?_⟩
    · rw [spread, if_neg (lt_irrefl first), spread_of_lt (by omega)]
      omega
    · rw [spread, if_neg (by omega)]
      exact ih (first + 1) (n - first) k m hm

theorem le_spread (above : ∀ n ∈ numbers, first + shift ≤ n) (sorted : numbers.Pairwise (· < ·))
    (i : Int) : i + shift ≤ spread first shift numbers i := by
  induction numbers generalizing first shift with
  | nil => exact Int.le_refl _
  | cons n rest ih =>
    obtain ⟨hn, -⟩ := List.forall_mem_cons.mp above
    obtain ⟨hhead, htail⟩ := List.pairwise_cons.mp sorted
    rw [spread]
    split
    · exact Int.le_refl _
    · have := @ih (first + 1) (n - first)
        (fun m hm => by have := hhead m hm; omega) htail
      omega

theorem strictMono_spread (above : ∀ n ∈ numbers, first + shift ≤ n)
    (sorted : numbers.Pairwise (· < ·)) : StrictMono (spread first shift numbers) := by
  induction numbers generalizing first shift with
  | nil => exact fun i j hlt => Int.add_lt_add_right hlt shift
  | cons n rest ih =>
    obtain ⟨hn, -⟩ := List.forall_mem_cons.mp above
    obtain ⟨hhead, htail⟩ := List.pairwise_cons.mp sorted
    have later : ∀ m ∈ rest, first + 1 + (n - first) ≤ m := fun m hm => by
      have := hhead m hm
      omega
    intro i j hlt
    by_cases hj : j < first
    · rw [spread, spread, if_pos hj, if_pos (hlt.trans hj)]
      omega
    · rw [spread, spread, if_neg hj]
      split
      · have := le_spread later htail j
        omega
      · exact ih later htail hlt

end

end Numbering

end DeviceAlerts
