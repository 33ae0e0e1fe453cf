import DeviceAlerts.Datum
import Mathlib.Data.List.Perm.Basic

/-! Likeness of values. Values that count as the same are looked up alike: likeness is symmetric
and transitive, and only what holds NaN is not like itself. Text and integers are like nothing but
themselves, apart from the numbers that an integer equals. -/

namespace DeviceAlerts.Datum

open DeviceAlerts.Number

/-! ### NaN in the canonical form -/

theorem hasPartFields_eq_any (test : Datum → Bool) (fields : List (String × Datum)) :
    hasPartFields test fields = fields.any fun field => hasPart test field.2 := by
  induction fields with
  | nil => rfl
  | cons field rest ih => simp only [hasPartFields, List.any_cons, ih]

theorem isNaN_of_toInt? {x : Binary64} {i : Int} (h : x.toInt? = some i) : x.isNaN = false := by
  cases x with
  | nan => simp [Binary64.toInt?] at h
  | signed => rfl

mutual
/-- The canonical form of a value holds NaN where the value does. -/
theorem hasPart_canonical : ∀ d : Datum, hasPart isNaN d.canonical = hasPart isNaN d
  | null => rfl
  | bool _ => rfl
  | int _ => rfl
  | float x => by
    cases h : x.toInt? with
    | none => simp [canonical, h]
    | some i => simp [canonical, h, hasPart, isNaN, isNaN_of_toInt? h]
  | text _ => rfl
  | garbled => rfl
  | moment _ => rfl
  | list xs => by simpa [canonical, hasPart] using hasPartItems_canonical xs
  | record fs => by
    have perm := List.mergeSort_perm (canonicalFields fs) fun a b => a.1 ≤ b.1
    simp only [canonical, hasPart]
    rw [hasPartFields_eq_any, perm.any_eq, ← hasPartFields_eq_any]
    exact hasPartFields_canonical fs

theorem hasPartItems_canonical :
    ∀ xs : List Datum, hasPartItems isNaN (canonicalItems xs) = hasPartItems isNaN xs
  | [] => rfl
  | x :: rest => by
    simp only [canonicalItems, hasPartItems, hasPart_canonical x, hasPartItems_canonical rest]

theorem hasPartFields_canonical :
    ∀ fs : List (String × Datum), hasPartFields isNaN (canonicalFields fs) = hasPartFields isNaN fs
  | [] => rfl
  | (_, x) :: rest => by
    simp only [canonicalFields, hasPartFields, hasPart_canonical x, hasPartFields_canonical rest]
end

/-! ### Likeness as a relation -/

theorem beq_iff {a b : Datum} :
    (a == b) = true ↔ a.canonical = b.canonical ∧ a.hasPart isNaN = false := by
  show alike a b = true ↔ _
  simp [alike]

theorem beq_symm {a b : Datum} (h : (a == b) = true) : (b == a) = true := by
  obtain ⟨same, number⟩ := beq_iff.mp h
  refine beq_iff.mpr ⟨same.symm, ?_⟩
  rw [← hasPart_canonical b, ← same, hasPart_canonical a, number]

theorem beq_trans {a b c : Datum} (hab : (a == b) = true) (hbc : (b == c) = true) :
    (a == c) = true := by
  obtain ⟨left, number⟩ := beq_iff.mp hab
  obtain ⟨right, _⟩ := beq_iff.mp hbc
  exact beq_iff.mpr ⟨left.trans right, number⟩

instance : PartialEquivBEq Datum where
  symm := beq_symm
  trans := beq_trans

/-! ### Text and integers -/

@[simp] theorem beq_text {d : Datum} {s : String} : (d == text s) = true ↔ d = text s := by
  constructor
  · intro h
    obtain ⟨same, _⟩ := beq_iff.mp h
    cases d with
    | float x => cases hx : x.toInt? <;> simp [canonical, hx] at same
    | text t => simpa [canonical] using same
    | _ => simp [canonical] at same
  · rintro rfl
    exact beq_iff.mpr ⟨rfl, rfl⟩

theorem text_beq_text (s t : String) : (text s == text t) = decide (s = t) := by
  rw [Bool.eq_iff_iff, beq_text, text.injEq, decide_eq_true_iff]

@[simp] theorem int_beq_int {a b : Int} : (int a == int b) = true ↔ a = b := by
  rw [beq_iff]
  simp [canonical, hasPart, isNaN]

end DeviceAlerts.Datum
