import DeviceAlerts.Program

/-! Protocols. A protocol says what may be asked, depending on what was answered before. A program
that keeps a protocol does so however it is answered, also when other programs ask in between:
what is proved of it does not depend on who runs it. What a single run asks is a list of questions,
each of which the protocol admits. -/

namespace DeviceAlerts

/-- Where a conversation stands, what may be asked there, which answers are reckoned with, and where
the conversation stands after an answer. -/
structure Protocol (I : Interface) where
  State : Type
  may : State → I.Call → Prop
  reckons : State → (c : I.Call) → I.Answer c → Prop
  after : State → (c : I.Call) → I.Answer c → State

namespace Program

variable {I : Interface} {α β : Type} {P : Protocol I}

/-- Whether a program keeps a protocol from a state on and ends as it should. -/
def Keeps (P : Protocol I) (ends : P.State → α → Prop) : Program I α → P.State → Prop
  | done a, g => ends g a
  | ask c next, g => P.may g c ∧ ∀ b, P.reckons g c b → (next b).Keeps P ends (P.after g c b)

theorem keeps_ask {ends : P.State → α → Prop} {c : I.Call} {next : I.Answer c → Program I α}
    {g : P.State} :
    (ask c next).Keeps P ends g ↔
      P.may g c ∧ ∀ b, P.reckons g c b → (next b).Keeps P ends (P.after g c b) := Iff.rfl

theorem keeps_bind {ends : P.State → β → Prop} {p : Program I α} {f : α → Program I β}
    {g : P.State} :
    (p >>= f).Keeps P ends g ↔ p.Keeps P (fun g a => (f a).Keeps P ends g) g := by
  show (p.bind f).Keeps P ends g ↔ _
  induction p generalizing g with
  | done a => exact Iff.rfl
  | ask c next ih => simp only [bind, Keeps, ih]

theorem Keeps.mono {ends others : P.State → α → Prop} {p : Program I α} {g : P.State}
    (h : p.Keeps P ends g) (weaker : ∀ g a, ends g a → others g a) : p.Keeps P others g := by
  induction p generalizing g with
  | done a => exact weaker g a h
  | ask c next ih => exact ⟨h.1, fun b hb => ih b (h.2 b hb)⟩

/-- A program that keeps a protocol ends as it should in every run in which the answers are reckoned
with; `inv` says how the conversation and the state of the run fit together. -/
theorem Keeps.run {σ : Type} {answer : (c : I.Call) → σ → I.Answer c × σ}
    {inv : P.State → σ → Prop}
    (step : ∀ g s c, inv g s → P.may g c →
      P.reckons g c (answer c s).1 ∧ inv (P.after g c (answer c s).1) (answer c s).2)
    {ends : P.State → α → Prop} {p : Program I α} {g : P.State} {s : σ}
    (h : p.Keeps P ends g) (start : inv g s) :
    ∃ last, ends last (p.run answer s).1 ∧ inv last (p.run answer s).2 := by
  induction p generalizing g s with
  | done a => exact ⟨g, h, start⟩
  | ask c next ih =>
    obtain ⟨hreckoned, hinv⟩ := step g s c start h.1
    exact ih _ (h.2 _ hreckoned) hinv

/-! ### The questions of a run -/

section

variable {σ : Type} (answer : (c : I.Call) → σ → I.Answer c × σ)

/-- The questions of a run, each with the state in which it is asked. -/
def asked : Program I α → σ → List (I.Call × σ)
  | done _, _ => []
  | ask c next, s => (c, s) :: (next (answer c s).1).asked (answer c s).2

theorem asked_bind (p : Program I α) (f : α → Program I β) (s : σ) :
    (p >>= f).asked answer s =
      p.asked answer s ++ (f (p.run answer s).1).asked answer (p.run answer s).2 := by
  show (p.bind f).asked answer s = _
  induction p generalizing s with
  | done a => rfl
  | ask c next ih =>
    simp only [bind, asked, run, List.cons_append]
    rw [ih]

/-- What is read off the questions of a run is read off those of its parts. -/
theorem filterMap_asked_bind {γ : Type} (g : I.Call × σ → Option γ) (p : Program I α)
    (f : α → Program I β) (s : σ) : ((p >>= f).asked answer s).filterMap g =
      (p.asked answer s).filterMap g ++
        ((f (p.run answer s).1).asked answer (p.run answer s).2).filterMap g := by
  rw [asked_bind, List.filterMap_append]

variable {answer} {ends : P.State → α → Prop} {p : Program I α}

/-- Where every answer is reckoned with, a run asks nothing but what the protocol admits. -/
theorem Keeps.exists_may_of_mem_asked (reckoned : ∀ g c b, P.reckons g c b) {g : P.State} {s : σ}
    (h : p.Keeps P ends g) : ∀ q ∈ p.asked answer s, ∃ g, P.may g q.1 := by
  induction p generalizing g s with
  | done a => exact nofun
  | ask c next ih =>
    obtain ⟨may, later⟩ := h
    intro q hq
    rcases List.mem_cons.mp hq with rfl | hq
    · exact ⟨g, may⟩
    · exact ih _ (later _ (reckoned g c _)) q hq

end

end Program

end DeviceAlerts
