import DeviceAlerts.Table

/-! Lookups in tables whose keys may count as equal without being the same. A key that is not even
equal to itself is never found again. -/

namespace DeviceAlerts.Table

variable {κ α : Type} [BEq κ]

@[simp] theorem get?_nil (key : κ) : get? ([] : Table κ α) key = none := rfl

theorem get?_cons (row : κ × α) (t : Table κ α) (key : κ) :
    get? (row :: t : Table κ α) key = if row.1 == key then some row.2 else t.get? key := by
  simp only [get?, List.find?_cons]
  split <;> simp_all

variable [PartialEquivBEq κ]

theorem get?_congr {a b : κ} (h : (a == b) = true) (t : Table κ α) : t.get? a = t.get? b := by
  have same (c : κ) : (c == a) = (c == b) := BEq.congr_right h
  simp only [get?, same]

theorem get?_set (key other : κ) (value : α) (t : Table κ α) :
    (t.set key value).get? other = if key == other then some value else t.get? other := by
  induction t with
  | nil => simp [set, get?_cons]
  | cons row rest ih =>
    simp only [set]
    split
    · next here =>
      simp only [get?_cons, show (row.1 == other) = (key == other) from BEq.congr_left here]
      split <;> rfl
    · next elsewhere =>
      simp only [get?_cons, ih]
      -- both keys cannot be equal to the other one, since they are not equal to each other
      by_cases hit : (key == other) = true
      · have : ¬ (row.1 == other) = true := fun h =>
          elsewhere (PartialEquivBEq.trans h (PartialEquivBEq.symm hit))
        simp [hit, this]
      · simp [hit]

theorem get?_modify (key other : κ) (f : Option α → α) (t : Table κ α) :
    (t.modify key f).get? other =
      if key == other then some (f (t.get? other)) else t.get? other := by
  rw [modify, get?_set]
  split
  · next h => rw [get?_congr h]
  · rfl

end DeviceAlerts.Table
