import DeviceAlerts.Time.Iso
import Mathlib.Data.String.Basic
import Mathlib.Order.Monotone.Basic
import Mathlib.Tactic.SplitIfs

/-! The calendar and the texts of its days. A day found by its number exists and lies as many days
after the beginning of the calendar; its text can be read again, and texts of days are in the order
of the days. -/

namespace DeviceAlerts.Time

open DeviceAlerts.Number

/-! ### Years and months -/

theorem daysBeforeYear_succ {year : Nat} (h : 1 ≤ year) : daysBeforeYear (year + 1) =
    daysBeforeYear year + if isLeap year then 366 else 365 := by
  obtain ⟨y, rfl⟩ := Nat.exists_eq_add_of_le' h
  have four : (y + 1) / 4 = y / 4 + if (y + 1) % 4 = 0 then 1 else 0 := by split <;> omega
  have hundred : (y + 1) / 100 = y / 100 + if (y + 1) % 100 = 0 then 1 else 0 := by
    split <;> omega
  have fourHundred : (y + 1) / 400 = y / 400 + if (y + 1) % 400 = 0 then 1 else 0 := by
    split <;> omega
  have fewer : y / 100 ≤ y / 4 := Nat.div_le_div_left (by decide) (by decide)
  have leap : isLeap (y + 1) = true ↔
      (y + 1) % 4 = 0 ∧ ((y + 1) % 100 ≠ 0 ∨ (y + 1) % 400 = 0) := by
    simp [isLeap]
  simp only [daysBeforeYear, Nat.add_sub_cancel, leap, four, hundred, fourHundred]
  split_ifs <;> omega

theorem daysBeforeYear_mono : Monotone daysBeforeYear := by
  refine monotone_nat_of_le_succ fun year => ?_
  rcases Nat.eq_zero_or_pos year with rfl | positive
  · exact le_rfl
  · rw [daysBeforeYear_succ positive]
    exact Nat.le_add_right _ _

theorem daysBeforeMonth_succ (year : Nat) {month : Nat} (h : 1 ≤ month) :
    daysBeforeMonth year (month + 1) = daysBeforeMonth year month + daysInMonth year month := by
  obtain ⟨month, rfl⟩ := Nat.exists_eq_add_of_le' h
  simp [daysBeforeMonth, List.range_succ]

theorem daysBeforeMonth_mono (year : Nat) : Monotone (daysBeforeMonth year) := by
  refine monotone_nat_of_le_succ fun month => ?_
  rcases Nat.eq_zero_or_pos month with rfl | positive
  · exact le_rfl
  · rw [daysBeforeMonth_succ year positive]
    exact Nat.le_add_right _ _

theorem daysBeforeMonth_end (year : Nat) :
    daysBeforeMonth year 13 = if isLeap year then 366 else 365 := by
  simp only [daysBeforeMonth, daysInMonth]
  cases isLeap year <;> rfl

namespace Date

/-! ### Dates by number -/

/-- A month and a day of it, counted from zero, make up a day of the year. -/
def Within (year day : Nat) (found : Nat × Nat) : Prop :=
  day = daysBeforeMonth year found.1 + found.2 ∧ found.2 < daysInMonth year found.1

theorem monthOf_spec (year : Nat) {month day months : Nat} (positive : 1 ≤ month)
    (inTime : daysBeforeMonth year month + day < daysBeforeMonth year (month + months + 1)) :
    month ≤ (monthOf year month day months).1 ∧
      (monthOf year month day months).1 ≤ month + months ∧
      Within year (daysBeforeMonth year month + day) (monthOf year month day months) := by
  have next := daysBeforeMonth_succ year positive
  induction months generalizing month day with
  | zero =>
    rw [Nat.add_zero, next] at inTime
    exact ⟨le_rfl, le_rfl, rfl, by simpa [monthOf] using inTime⟩
  | succ months ih =>
    rw [monthOf]
    split
    · next here => exact ⟨le_rfl, Nat.le_add_right _ _, rfl, here⟩
    · next later =>
      have rest : daysBeforeMonth year (month + 1) + (day - daysInMonth year month) =
          daysBeforeMonth year month + day := by omega
      obtain ⟨hlow, hhigh, hwithin⟩ := @ih (month + 1) (day - daysInMonth year month)
        (Nat.le_add_left 1 month)
        (by rwa [rest, show month + 1 + months + 1 = month + (months + 1) + 1 by omega])
        (daysBeforeMonth_succ year (Nat.le_add_left 1 month))
      rw [rest] at hwithin
      exact ⟨by omega, by omega, hwithin⟩

/-- A date lies a number of days after the beginning of the calendar. -/
structure Lies (n : Nat) (d : Date) : Prop where
  year_pos : 1 ≤ d.year
  month_pos : 1 ≤ d.month
  month_le : d.month ≤ 12
  day_pos : 1 ≤ d.day
  day_le : d.day ≤ daysInMonth d.year d.month
  sum : n + 1 = daysBeforeYear d.year + daysBeforeMonth d.year d.month + d.day

/-- The cycles of 400, 100, 4 and 1 years that lie before a day, and the day of its year. -/
theorem ofOrdinal_cycles (n : Nat) : ∃ a b c d r, b ≤ 3 ∧ c ≤ 24 ∧ d ≤ 3 ∧ r ≤ 365 ∧
    (r = 365 → d = 3 ∧ (c = 24 → b = 3)) ∧
    n = a * 146097 + b * 36524 + c * 1461 + d * 365 + r ∧
    ofOrdinal n = ⟨a * 400 + b * 100 + c * 4 + d + 1,
      (monthOf (a * 400 + b * 100 + c * 4 + d + 1) 1 r 11).1,
      (monthOf (a * 400 + b * 100 + c * 4 + d + 1) 1 r 11).2 + 1⟩ := by
  refine ⟨_, _, _, _, _, ?_, ?_, ?_, ?_, ?_, ?_, rfl⟩
  all_goals omega

/-- The year of a day, as the number of those before it, and the day of the year. -/
theorem ofOrdinal_year (n : Nat) : ∃ y r, n = daysBeforeYear (y + 1) + r ∧
    r < (if isLeap (y + 1) then 366 else 365) ∧
    ofOrdinal n = ⟨y + 1, (monthOf (y + 1) 1 r 11).1, (monthOf (y + 1) 1 r 11).2 + 1⟩ := by
  obtain ⟨a, b, c, d, r, hb, hc, hd, hr, last, hn, hdate⟩ := ofOrdinal_cycles n
  refine ⟨a * 400 + b * 100 + c * 4 + d, r, ?_, ?_, hdate⟩
  · have four : (a * 400 + b * 100 + c * 4 + d) / 4 = a * 100 + b * 25 + c := by omega
    have hundred : (a * 400 + b * 100 + c * 4 + d) / 100 = a * 4 + b := by omega
    have fourHundred : (a * 400 + b * 100 + c * 4 + d) / 400 = a := by omega
    rw [daysBeforeYear, Nat.add_sub_cancel, four, hundred, fourHundred]
    omega
  · by_cases long : r = 365
    · obtain ⟨rfl, century⟩ := last long
      have leap : isLeap (a * 400 + b * 100 + c * 4 + 3 + 1) = true := by
        simp only [isLeap, Bool.and_eq_true, Bool.or_eq_true, beq_iff_eq, bne_iff_ne]
        omega
      rw [leap, long]
      decide
    · split <;> omega

theorem lies_ofOrdinal (n : Nat) : Lies n (ofOrdinal n) := by
  obtain ⟨y, r, hn, hr, hdate⟩ := ofOrdinal_year n
  obtain ⟨hlow, hhigh, hday, hin⟩ := @monthOf_spec (y + 1) 1 r 11 le_rfl
    (by rw [daysBeforeMonth_end]; simpa [daysBeforeMonth] using hr)
  rw [hdate]
  refine ⟨Nat.le_add_left 1 y, hlow, hhigh, Nat.le_add_left _ _, hin, ?_⟩
  have first : daysBeforeMonth (y + 1) 1 = 0 := rfl
  dsimp only
  omega

theorem year_ofOrdinal_le {n : Nat} (h : n < dayCount) : (ofOrdinal n).year ≤ 9999 := by
  have lies := lies_ofOrdinal n
  by_contra late
  have later := daysBeforeYear_mono (show 10000 ≤ (ofOrdinal n).year by omega)
  have sum := lies.sum
  have day := lies.day_pos
  rw [dayCount] at h
  omega

/-- A day of the supported years exists. -/
theorem make?_ofOrdinal {n : Nat} (h : n < dayCount) :
    make? (ofOrdinal n).year (ofOrdinal n).month (ofOrdinal n).day = .ok (ofOrdinal n) := by
  obtain ⟨hyear, hmonth, hmonth', hday, hday', _⟩ := lies_ofOrdinal n
  have hyear' := year_ofOrdinal_le h
  rw [make?, if_neg (by simp; omega), if_neg (by simp; omega), if_neg (by simp; omega)]

/-- Whether a date comes before another by year, then by month, then by day. -/
def Before (d e : Date) : Prop :=
  d.year < e.year ∨ d.year = e.year ∧
    (d.month < e.month ∨ d.month = e.month ∧ d.day < e.day)

namespace Lies

variable {m n : Nat} {d e : Date}

/-- A date lies before the beginning of the next year. -/
theorem lt_next_year (h : Lies n d) : n < daysBeforeYear (d.year + 1) := by
  have month := daysBeforeMonth_succ d.year h.month_pos
  have rest := daysBeforeMonth_mono d.year (show d.month + 1 ≤ 13 from Nat.succ_le_succ h.month_le)
  rw [daysBeforeMonth_end] at rest
  have := h.sum
  have := h.day_le
  rw [daysBeforeYear_succ h.year_pos]
  omega

theorem before (hd : Lies m d) (he : Lies n e) (h : m < n) : Before d e := by
  have hm := hd.sum
  have hn := he.sum
  have hday := hd.day_pos
  rcases lt_trichotomy d.year e.year with year | year | year
  · exact .inl year
  · refine .inr ⟨year, ?_⟩
    rcases lt_trichotomy d.month e.month with month | month | month
    · exact .inl month
    · rw [year, month] at hm
      exact .inr ⟨month, by omega⟩
    · -- a later month begins after the whole of an earlier one
      have later := daysBeforeMonth_mono e.year (show e.month + 1 ≤ d.month from month)
      rw [daysBeforeMonth_succ e.year he.month_pos] at later
      have := he.day_le
      rw [year] at hm
      omega
  · have later := daysBeforeYear_mono (show e.year + 1 ≤ d.year from year)
    have := he.lt_next_year
    omega

end Lies

/-! ### Digits -/

/-- The last digits of a number, zeros in front. -/
def fixedDigits : Nat → Nat → List Char
  | 0, _ => []
  | width + 1, n => fixedDigits width (n / 10) ++ [Nat.digitChar (n % 10)]

theorem fixedDigits_zero (width : Nat) : fixedDigits width 0 = List.replicate width '0' := by
  induction width with
  | zero => rfl
  | succ width ih => rw [fixedDigits, Nat.zero_div, ih, List.replicate_succ']; rfl

theorem toList_padded {width n : Nat} (h : n < 10 ^ (width + 1)) :
    (padded (width + 1) n).toList = fixedDigits (width + 1) n := by
  rw [padded, String.toList_ofList]
  induction width generalizing n with
  | zero =>
    have small : n < 10 := by simpa using h
    simp [Nat.toDigits_of_lt_base small, fixedDigits, Nat.mod_eq_of_lt small]
  | succ width ih =>
    rcases Nat.lt_or_ge n 10 with small | large
    · rw [fixedDigits, Nat.div_eq_of_lt small, fixedDigits_zero, Nat.toDigits_of_lt_base small,
        Nat.mod_eq_of_lt small]
      simp
    · have fewer : n / 10 < 10 ^ (width + 1) := Nat.div_lt_of_lt_mul (by rwa [← Nat.pow_succ'])
      rw [fixedDigits, ← ih fewer, Nat.toDigits_of_base_le (by decide) large]
      simp [List.append_assoc]

@[simp] theorem length_fixedDigits (width n : Nat) : (fixedDigits width n).length = width := by
  induction width generalizing n with
  | zero => rfl
  | succ width ih => simp [fixedDigits, ih]

theorem isPlainDigit_digitChar {d : Nat} (h : d < 10) :
    isPlainDigit (Nat.digitChar d) = true := by
  revert d
  decide

theorem toNat_digitChar {d : Nat} (h : d < 10) : (Nat.digitChar d).toNat - 0x30 = d := by
  revert d
  decide

theorem digitChar_lt {d e : Nat} (h : d < e) (he : e < 10) :
    Nat.digitChar d < Nat.digitChar e := by
  have all : ∀ e < 10, ∀ d < e, Nat.digitChar d < Nat.digitChar e := by decide
  exact all e he d h

theorem all_isPlainDigit_fixedDigits (width n : Nat) :
    (fixedDigits width n).all isPlainDigit = true := by
  induction width generalizing n with
  | zero => rfl
  | succ width ih =>
    simp [fixedDigits, ih, isPlainDigit_digitChar (Nat.mod_lt n (by decide : 10 > 0))]

theorem digitsValue_fixedDigits {width n : Nat} (h : n < 10 ^ width) :
    digitsValue (fixedDigits width n) = n := by
  induction width generalizing n with
  | zero => simp [fixedDigits, digitsValue]; omega
  | succ width ih =>
    have fewer : n / 10 < 10 ^ width := Nat.div_lt_of_lt_mul (by rwa [← Nat.pow_succ'])
    have value := ih fewer
    rw [digitsValue] at value ⊢
    rw [fixedDigits, List.foldl_append, value]
    simp only [List.foldl_cons, List.foldl_nil,
      toNat_digitChar (Nat.mod_lt n (by decide : 10 > 0))]
    omega

/-- Of texts that go on after parts of the same length, the parts are compared first. -/
theorem append_lt_append_iff {xs ys us vs : List Char} (same : xs.length = ys.length) :
    xs ++ us < ys ++ vs ↔ xs < ys ∨ xs = ys ∧ us < vs := by
  induction xs generalizing ys with
  | nil =>
    obtain rfl := List.eq_nil_of_length_eq_zero same.symm
    simp
  | cons x xs ih =>
    cases ys with
    | nil => simp at same
    | cons y ys =>
      simp only [List.cons_append, List.cons_lt_cons_iff, ih (Nat.succ.inj same),
        List.cons.injEq]
      tauto

theorem fixedDigits_lt {width m n : Nat} (h : m < n) (hn : n < 10 ^ width) :
    fixedDigits width m < fixedDigits width n := by
  induction width generalizing m n with
  | zero => simp at hn; omega
  | succ width ih =>
    have fewer : n / 10 < 10 ^ width := Nat.div_lt_of_lt_mul (by rwa [← Nat.pow_succ'])
    rw [fixedDigits, fixedDigits, append_lt_append_iff (by simp)]
    rcases Nat.lt_or_ge (m / 10) (n / 10) with front | front
    · exact .inl (ih front fewer)
    · have same : m / 10 = n / 10 := le_antisymm (Nat.div_le_div_right h.le) front
      refine .inr ⟨by rw [same], ?_⟩
      have last : m % 10 < n % 10 := by omega
      exact List.cons_lt_cons_iff.mpr (.inl (digitChar_lt last (Nat.mod_lt n (by decide))))

/-! ### Texts of days -/

theorem daysInMonth_le (year month : Nat) : daysInMonth year month ≤ 31 := by
  unfold daysInMonth
  split_ifs <;> decide

theorem toList_text_ofOrdinal {n : Nat} (h : n < dayCount) : (ofOrdinal n).text.toList =
    fixedDigits 4 (ofOrdinal n).year ++ ('-' :: (fixedDigits 2 (ofOrdinal n).month ++
      ('-' :: fixedDigits 2 (ofOrdinal n).day))) := by
  have year := year_ofOrdinal_le h
  have month := (lies_ofOrdinal n).month_le
  have day := ((lies_ofOrdinal n).day_le).trans (daysInMonth_le _ _)
  simp only [text, String.toList_append, List.append_assoc]
  rw [toList_padded (by omega), toList_padded (by omega), toList_padded (by omega)]
  rfl

/-- Texts of days are in the order of the days. -/
theorem text_lt_text {m n : Nat} (h : m < n) (hn : n < dayCount) :
    (ofOrdinal m).text < (ofOrdinal n).text := by
  have before := (lies_ofOrdinal m).before (lies_ofOrdinal n) h
  have year := year_ofOrdinal_le hn
  have month := (lies_ofOrdinal n).month_le
  have day := ((lies_ofOrdinal n).day_le).trans (daysInMonth_le _ _)
  rw [String.lt_iff_toList_lt, toList_text_ofOrdinal (h.trans hn), toList_text_ofOrdinal hn,
    append_lt_append_iff (by simp)]
  rcases before with hyear | ⟨hyear, hrest⟩
  · exact .inl (fixedDigits_lt hyear (by omega))
  refine .inr ⟨by rw [hyear], List.cons_lt_cons_iff.mpr (.inr ⟨rfl, ?_⟩)⟩
  rw [append_lt_append_iff (by simp)]
  rcases hrest with hmonth | ⟨hmonth, hday⟩
  · exact .inl (fixedDigits_lt hmonth (by omega))
  · exact .inr ⟨by rw [hmonth], List.cons_lt_cons_iff.mpr
      (.inr ⟨rfl, fixedDigits_lt hday (by omega)⟩)⟩

theorem text_lt_text_iff {m n : Nat} (hm : m < dayCount) (hn : n < dayCount) :
    (ofOrdinal m).text < (ofOrdinal n).text ↔ m < n := by
  refine ⟨fun h => ?_, fun h => text_lt_text h hn⟩
  rcases lt_trichotomy m n with below | same | above
  · exact below
  · rw [same] at h
    exact absurd h (lt_irrefl _)
  · exact absurd (h.trans (text_lt_text above hm)) (lt_irrefl _)

theorem text_inj {m n : Nat} (hm : m < dayCount) (hn : n < dayCount)
    (h : (ofOrdinal m).text = (ofOrdinal n).text) : m = n := by
  by_contra other
  rcases Nat.lt_or_gt_of_ne other with below | above
  · exact absurd h (text_lt_text below hn).ne
  · exact absurd h (text_lt_text above hm).ne'

end Date

open Date

theorem takeDigits?_fixedDigits {width n : Nat} (h : n < 10 ^ width) (rest : List Char) :
    takeDigits? width (fixedDigits width n ++ rest) = some (n, rest) := by
  have taken : (fixedDigits width n ++ rest).take width = fixedDigits width n :=
    List.take_left' (length_fixedDigits width n)
  have left : (fixedDigits width n ++ rest).drop width = rest :=
    List.drop_left' (length_fixedDigits width n)
  simp [takeDigits?, taken, left, all_isPlainDigit_fixedDigits, digitsValue_fixedDigits h]

theorem readMonth?_fixedDigits {month day : Nat} (hmonth : month < 100) (hday : day < 100) :
    readMonth? true (fixedDigits 2 month ++ ('-' :: fixedDigits 2 day)) = some (month, day) := by
  have last := @takeDigits?_fixedDigits 2 day hday []
  rw [List.append_nil] at last
  simp [readMonth?, @takeDigits?_fixedDigits 2 month hmonth, expect?, last]

theorem utf8Size_of_isPlainDigit {c : Char} (h : isPlainDigit c = true) : c.utf8Size = 1 := by
  simp only [isPlainDigit, Bool.and_eq_true, decide_eq_true_eq] at h
  have ascii : ('9' : Char).val ≤ 127 := by decide
  exact Char.utf8Size_eq_one_iff.mpr (UInt32.le_trans h.2 ascii)

theorem utf8Len_fixedDigits (width n : Nat) : String.utf8Len (fixedDigits width n) = width := by
  have plain := all_isPlainDigit_fixedDigits width n
  have length := length_fixedDigits width n
  generalize fixedDigits width n = cs at plain length
  induction cs generalizing width with
  | nil => simpa using length
  | cons c rest ih =>
    simp only [List.all_cons, Bool.and_eq_true] at plain
    rw [String.utf8Len_cons, ih rest.length plain.2 rfl, utf8Size_of_isPlainDigit plain.1]
    simpa using length

/-- The text of a day can be read again. -/
theorem readDay_text {n : Nat} (h : n < dayCount) :
    readDay (ofOrdinal n).text = .ok (ofOrdinal n) := by
  have year := year_ofOrdinal_le h
  have month := (lies_ofOrdinal n).month_le
  have day := ((lies_ofOrdinal n).day_le).trans (daysInMonth_le _ _)
  have size : (ofOrdinal n).text.utf8ByteSize = 10 := by
    rw [← String.utf8Len_toList, toList_text_ofOrdinal h]
    simp only [String.utf8Len_append, String.utf8Len_cons, utf8Len_fixedDigits]
    decide
  have date : readDate? 10 (ofOrdinal n).text.toList =
      some (.ok (ofOrdinal n)) := by
    rw [toList_text_ofOrdinal h]
    simp only [readDate?, takeDigits?_fixedDigits (show (ofOrdinal n).year < 10 ^ 4 by omega),
      bind, Option.bind, List.head?_cons, beq_self_eq_true, if_true, List.drop_one, List.tail_cons]
    split
    · next weekly =>
      -- a month does not begin with the letter that marks weeks
      have first := isPlainDigit_digitChar (Nat.mod_lt ((ofOrdinal n).month / 10) (by decide))
      simp only [fixedDigits, List.nil_append, List.cons_append, List.cons.injEq] at weekly
      rw [weekly.1] at first
      exact absurd first (by decide)
    · rw [readMonth?_fixedDigits (by omega) (by omega)]
      simp [make?_ofOrdinal h]
  simp [readDay, size, date, Except.mapError]

end DeviceAlerts.Time
