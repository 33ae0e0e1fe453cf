/-! Courses of events. A system is driven by choices that are made for it; every choice leads to a
next state and leaves an event behind. -/

namespace DeviceAlerts.Course

variable {σ χ ε : Type} (next : σ → χ → σ × ε)

/-- The state after a list of choices. -/
def after (s : σ) (choices : List χ) : σ := choices.foldl (fun s c => (next s c).1) s

/-- The events of a list of choices, in their order. -/
def events (s : σ) : List χ → List ε
  | [] => []
  | c :: rest => (next s c).2 :: events (next s c).1 rest

@[simp] theorem after_nil (s : σ) : after next s [] = s := rfl

@[simp] theorem after_cons (s : σ) (c : χ) (rest : List χ) :
    after next s (c :: rest) = after next (next s c).1 rest := rfl

theorem after_append (s : σ) (first second : List χ) :
    after next s (first ++ second) = after next (after next s first) second :=
  List.foldl_append

@[simp] theorem events_nil (s : σ) : events next s [] = [] := rfl

@[simp] theorem events_cons (s : σ) (c : χ) (rest : List χ) :
    events next s (c :: rest) = (next s c).2 :: events next (next s c).1 rest := rfl

theorem events_append (s : σ) (first second : List χ) : events next s (first ++ second) =
    events next s first ++ events next (after next s first) second := by
  induction first generalizing s with
  | nil => rfl
  | cons c rest ih => exact congrArg ((next s c).2 :: ·) (ih (next s c).1)

/-- A course may be cut wherever its events are cut. -/
theorem exists_of_events_eq_append {s : σ} {choices : List χ} {first second : List ε}
    (h : events next s choices = first ++ second) :
    ∃ before later, choices = before ++ later ∧ events next s before = first ∧
      events next (after next s before) later = second := by
  induction first generalizing s choices with
  | nil => exact ⟨[], choices, rfl, rfl, h⟩
  | cons e rest ih =>
    cases choices with
    | nil => cases h
    | cons c others =>
      obtain ⟨he, hrest⟩ := List.cons.inj h
      obtain ⟨before, later, rfl, hfirst, hsecond⟩ := ih hrest
      refine ⟨c :: before, later, rfl, ?_, hsecond⟩
      rw [events_cons, he, hfirst]

/-- What every step keeps holds after any course. -/
theorem after_induction {inv : σ → Prop} (step : ∀ s c, inv s → inv (next s c).1) {s : σ}
    (h : inv s) (choices : List χ) : inv (after next s choices) := by
  induction choices generalizing s with
  | nil => exact h
  | cons c rest ih => exact ih (step s c h)

end DeviceAlerts.Course
