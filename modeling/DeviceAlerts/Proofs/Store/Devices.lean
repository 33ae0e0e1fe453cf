import DeviceAlerts.Store.Devices
import Mathlib.Data.List.Basic

/-! When the stored devices stay as they are: a call on devices changes them only if it answers that
it has. -/

namespace DeviceAlerts.Store.Devices

open DeviceAlerts.Time

variable {s : Devices} {now : Moment} {id : Datum}

theorem rows_create {draft : DeviceDraft} (h : ∀ device, (s.create now draft).1 ≠ .ok device) :
    (s.create now draft).2.rows = s.rows := by
  unfold create at h ⊢
  split
  · rfl
  · next hfree =>
    rw [if_neg hfree] at h
    cases hpeople : draft.responsible.readIntegers with
    | error _ => rfl
    | ok people => exact absurd (by rw [hpeople]) (h _)

theorem update_eq_self {changes : List DeviceChange}
    (h : ∀ device, (s.update now id changes).1 ≠ .ok (some device)) :
    (s.update now id changes).2 = s := by
  simp only [update] at h ⊢
  split
  · rfl
  · next hknown =>
    simp only [hknown] at h
    cases hid : id.readInteger with
    | error failure => rfl
    | ok i =>
      cases hfind : s.find? i with
      | none => simp only [hfind]
      | some old =>
        cases hrevised : s.revise now old changes with
        | error failure => simp only [hfind, hrevised]
        | ok new => simp [hid, hfind, hrevised] at h

theorem delete_eq_self (h : (s.delete id).1 ≠ .ok true) : (s.delete id).2 = s := by
  unfold delete at h ⊢
  cases hid : id.readInteger with
  | error failure => rfl
  | ok i =>
    simp only [hid, ne_eq, Except.ok.injEq, Bool.not_eq_true] at h
    have hrows : s.rows.filter (fun d => d.id ≠ .int i) = s.rows :=
      List.filter_eq_self.mpr fun d hd => by simpa using List.any_eq_false.mp h d hd
    simp only [hrows]

end DeviceAlerts.Store.Devices
