/-! A cache holds one snapshot that is replaced as a whole. Whoever rebuilds it takes a ticket
first; a snapshot whose ticket is older than that of the one in place is discarded. -/

namespace DeviceAlerts

structure Cache (σ : Type) where
  snapshot : σ
  issued : Int
  published : Int

namespace Cache

variable {σ : Type}

def empty (s : σ) : Cache σ := ⟨s, 0, 0⟩

inductive Call (σ : Type)
  | read
  | generation
  | issue
  | publish (ticket : Int) (snapshot : σ)

/-- The generation is the ticket of the snapshot in place. Publishing answers the snapshot in place
afterwards and whether it is the given one. -/
@[reducible] def Call.Answer : Call σ → Type
  | .read => σ
  | .generation | .issue => Int
  | .publish _ _ => σ × Bool

def issue (c : Cache σ) : Int × Cache σ := (c.issued + 1, { c with issued := c.issued + 1 })

def publish (c : Cache σ) (ticket : Int) (snapshot : σ) : (σ × Bool) × Cache σ :=
  if ticket < c.published then ((c.snapshot, false), c)
  else ((snapshot, true), { c with snapshot, published := ticket })

def perform (c : Cache σ) : (call : Call σ) → call.Answer × Cache σ
  | .read => (c.snapshot, c)
  | .generation => (c.published, c)
  | .issue => c.issue
  | .publish ticket snapshot => c.publish ticket snapshot

end Cache

end DeviceAlerts
