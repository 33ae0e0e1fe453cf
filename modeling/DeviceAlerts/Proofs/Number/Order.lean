import DeviceAlerts.Number.Binary64

/-! The order of numbers. NaN stands outside of it: it is neither less than a number nor at most
one, and no number is less than it. -/

namespace DeviceAlerts.Number.Binary64

variable {x y : Binary64}

theorem exists_key (h : x.isNaN = false) : ∃ i, x.key = some i := by
  cases x with
  | nan => cases h
  | signed negative m => exact ⟨_, rfl⟩

theorem not_isNaN_of_lt (h : x.lt y = true) : x.isNaN = false ∧ y.isNaN = false := by
  cases x with
  | nan => cases h
  | signed negative m =>
    cases y with
    | nan => cases h
    | signed negative' m' => exact ⟨rfl, rfl⟩

/-- Of two numbers one is less than the other, or they are equal. -/
theorem lt_trichotomy (hx : x.isNaN = false) (hy : y.isNaN = false) :
    (x.lt y = true ∧ ¬ y.lt x = true ∧ ¬ x.eq y = true) ∨
      (¬ x.lt y = true ∧ y.lt x = true ∧ ¬ x.eq y = true) ∨
        (¬ x.lt y = true ∧ ¬ y.lt x = true ∧ x.eq y = true) := by
  obtain ⟨i, hi⟩ := exists_key hx
  obtain ⟨j, hj⟩ := exists_key hy
  simp only [lt, eq, hi, hj, decide_eq_true_eq, beq_iff_eq]
  omega

/-! ### At most -/

/-- At most another number. -/
def le (x y : Binary64) : Bool := x.lt y || x.eq y

theorem le_of_lt (h : x.lt y = true) : x.le y = true := by
  rw [le, h, Bool.true_or]

theorem le_iff_key : x.le y = true ↔ ∃ i j, x.key = some i ∧ y.key = some j ∧ i ≤ j := by
  unfold le lt eq
  cases x.key with
  | none => simp
  | some i =>
    cases y.key with
    | none => simp
    | some j => simp [Int.le_iff_lt_or_eq]

/-- What is at most something is at most itself. -/
theorem le_self_of_le (h : x.le y = true) : x.le x = true ∧ y.le y = true := by
  obtain ⟨i, j, hx, hy, -⟩ := le_iff_key.mp h
  exact ⟨le_iff_key.mpr ⟨i, i, hx, hx, Int.le_refl i⟩, le_iff_key.mpr ⟨j, j, hy, hy, Int.le_refl j⟩⟩

end DeviceAlerts.Number.Binary64
