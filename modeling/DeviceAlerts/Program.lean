/-! Programs that ask and are answered. A program is the tree of its questions; who answers them,
and what happens between two of them, is up to whoever runs it. -/

namespace DeviceAlerts

/-- The questions that may be asked and the answers that they have. -/
structure Interface where
  Call : Type
  Answer : Call → Type

inductive Program (I : Interface) (α : Type) : Type
  | done (result : α)
  | ask (call : I.Call) (next : I.Answer call → Program I α)

namespace Program

variable {I : Interface} {α β σ : Type}

def bind : Program I α → (α → Program I β) → Program I β
  | done a, f => f a
  | ask call next, f => ask call fun answer => (next answer).bind f

instance : Monad (Program I) where
  pure := done
  bind := bind

/-- Asks one question. -/
def call (c : I.Call) : Program I (I.Answer c) := ask c done

/-- Runs a program; `answer` answers a question and changes the state. -/
def run (answer : (c : I.Call) → σ → I.Answer c × σ) : Program I α → σ → α × σ
  | done a, s => (a, s)
  | ask c next, s => (next (answer c s).1).run answer (answer c s).2

theorem bind_assoc {γ : Type} (p : Program I α) (f : α → Program I β) (g : β → Program I γ) :
    (p.bind f).bind g = p.bind fun a => (f a).bind g := by
  induction p with
  | done a => rfl
  | ask c next ih => simp only [bind, ih]

theorem bind_done (p : Program I α) : p.bind done = p := by
  induction p with
  | done a => rfl
  | ask c next ih => simp only [bind, ih]

instance : LawfulMonad (Program I) :=
  LawfulMonad.mk' _ bind_done (fun _ _ => rfl) bind_assoc

theorem run_bind (answer : (c : I.Call) → σ → I.Answer c × σ) (p : Program I α)
    (f : α → Program I β) (s : σ) :
    (p.bind f).run answer s = (f (p.run answer s).1).run answer (p.run answer s).2 := by
  induction p generalizing s with
  | done a => rfl
  | ask c next ih => simp only [bind, run, ih]

end Program

end DeviceAlerts
