import DeviceAlerts.Mongo.Store

/-! What attempts come to when somebody answers their questions. An attempt runs through its
requests until one of them fails; what the answers do to the state remains. -/

namespace DeviceAlerts.Mongo

open DeviceAlerts.Number DeviceAlerts.Time

variable {α β σ : Type} (answer : (c : mongo.Call) → σ → mongo.Answer c × σ)

/-- What an attempt comes to from a state on, and the state after it. -/
def Attempt.outcome (p : Attempt α) (s : σ) : Except Failure α × σ :=
  Program.run answer p.run s

namespace Attempt

theorem outcome_now (s : σ) :
    now.outcome answer s = (.ok (answer .now s).1, (answer .now s).2) := rfl

theorem outcome_bind (p : Attempt α) (f : α → Attempt β) (s : σ) :
    (p >>= f).outcome answer s = match p.outcome answer s with
      | (.ok a, t) => (f a).outcome answer t
      | (.error e, t) => (.error e, t) := by
  have h : (p >>= f).outcome answer s =
      Program.run answer (Program.bind p.run (ExceptT.bindCont f)) s := rfl
  rw [h, Program.run_bind, outcome]
  obtain ⟨result, t⟩ := Program.run answer p.run s
  cases result <;> rfl

/-- An attempt goes on after a part that succeeds. -/
theorem outcome_bind_ok {p : Attempt α} {f : α → Attempt β} {s t : σ} {a : α}
    (h : p.outcome answer s = (.ok a, t)) :
    (p >>= f).outcome answer s = (f a).outcome answer t := by
  rw [outcome_bind, h]

theorem outcome_bind_error {p : Attempt α} {f : α → Attempt β} {s t : σ} {e : Failure}
    (h : p.outcome answer s = (.error e, t)) :
    (p >>= f).outcome answer s = (.error e, t) := by
  rw [outcome_bind, h]

theorem outcome_withFailure (change : Failure → Failure) (p : Attempt α) (s : σ) :
    (p.withFailure change).outcome answer s =
      ((p.outcome answer s).1.mapError change, (p.outcome answer s).2) := by
  have h : (p.withFailure change).outcome answer s =
      Program.run answer (Program.bind p.run fun a => .done (a.mapError change)) s := rfl
  rw [h, Program.run_bind]
  rfl

end Attempt

/-- The database can always be reached, and to reach it leaves alone what there is to be seen. -/
structure Reachable {δ : Type} (view : σ → δ) : Prop where
  asked (s : σ) : view (answer .isConnected s).2 = view s
  connects (uri : String) (limit : Option Binary64) (s : σ) :
    (answer (.drive (.connect uri) limit) s).1 = .ok ()
  connected (uri : String) (limit : Option Binary64) (s : σ) :
    view (answer (.drive (.connect uri) limit) s).2 = view s

namespace Access

variable {answer} (a : Access)

theorem outcome_send (r : Request) (s : σ) : (a.send r).outcome answer s =
    ((answer (.drive r a.limit) s).1.mapError (Fault.failure a.call),
      (answer (.drive r a.limit) s).2) := rfl

theorem outcome_reach {δ : Type} {view : σ → δ} (h : Reachable answer view) (s : σ) :
    ∃ t, a.reach.outcome answer s = (.ok (), t) ∧ view t = view s := by
  have asked := h.asked s
  obtain ⟨isConnected, t, hanswer⟩ : ∃ (b : Bool) (t : σ), answer .isConnected s = (b, t) :=
    ⟨_, _, rfl⟩
  rw [hanswer] at asked
  have hreach : a.reach.outcome answer s = Program.run answer (Program.bind
      (if isConnected = true then pure (.ok ()) else drive (.connect a.uri) a.limit)
        fun e => .done (e.mapError (Fault.failure a.call))) t := by
    change Program.run answer (Program.bind _ _) (answer .isConnected s).2 = _
    rw [hanswer]
    rfl
  rw [hreach, Program.run_bind]
  cases isConnected with
  | true => exact ⟨t, rfl, asked⟩
  | false =>
    refine ⟨(answer (.drive (.connect a.uri) a.limit) t).2, ?_, ?_⟩
    · have connects := h.connects a.uri a.limit t
      change (((answer (.drive (.connect a.uri) a.limit) t).1.mapError _), _) = _
      rw [connects]
      rfl
    · rw [h.connected, asked]

/-- A request is answered once the database is reached. -/
theorem outcome_request {δ : Type} {view : σ → δ} (h : Reachable answer view) (r : Request)
    (s : σ) : ∃ t, view t = view s ∧ (a.request r).outcome answer s =
      ((answer (.drive r a.limit) t).1.mapError (Fault.failure a.call),
        (answer (.drive r a.limit) t).2) := by
  obtain ⟨t, ht, hview⟩ := a.outcome_reach h s
  exact ⟨t, hview, by rw [request, Attempt.outcome_bind_ok answer ht, outcome_send]⟩

end Access

end DeviceAlerts.Mongo
