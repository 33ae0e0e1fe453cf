import DeviceAlerts.Monitor.Reporting
import DeviceAlerts.Monitor.Sweep
import DeviceAlerts.Proofs.Monitor.Freshness
import DeviceAlerts.Proofs.Monitor.Tidiness

/-! Properties that activities have step by step. All that the service does is put together from
questions that leave records and caches alone, from changes that are followed by a reload, and from
the handling of winners. What is true of these and passes from activities to those that are put
together from them is true of everything: the programs are gone through only here and where requests
are answered. -/

namespace DeviceAlerts

open DeviceAlerts.Monitor DeviceAlerts.Time

/-- Whether a call may change a device or a tag. -/
def Store.Call.revises : Store.Call → Bool
  | createDevice _ | updateDevice _ _ | deleteDevice _ | createTag _ | updateTag _ _
  | deleteTag _ => true
  | _ => false

namespace Monitor

/-- Closed under all ways in which activities are put together. A store call that may change a
record is followed by the reload of its part if it has. -/
structure Stepwise (P : {α : Type} → Activity α → Prop) : Prop where
  done {α : Type} (a : α) : P (pure a)
  bind {α β : Type} {first : Activity α} {rest : α → Activity β} :
    P first → (∀ a, P (rest a)) → P (first >>= rest)
  calm {c : Call} : c.isCalm = true → P (ask c)
  fixed {c : Store.Call} : c.revises = false → P (askStore c)
  change {α : Type} {c : Store.Call} {otherwise : Notice}
    {next : Except Failure c.Answer → Activity α}
    (typed : c.Typed) (tidy : c.Tidy) (miss : otherwise.tellsMiss = true)
    (failed : ∀ failure, P (next (.error failure))) (rest : c.Answer → Activity α)
    (reloads : ∀ answer, next (.ok answer) = if c.hasChanged (.ok answer)
      then c.part.reload otherwise >>= fun _ => rest answer else rest answer)
    (h : ∀ answer, P (rest answer)) : P (askStore c >>= next)
  start (p : Part) : P (p.reload (.notLoadedAtStart p))
  classify (m : Message) : P (classify m)

variable {P : {α : Type} → Activity α → Prop}

/-- A property of all store calls that hand over tidy records and of all reloads need not be shown
of changes. -/
theorem Stepwise.of_calls (done : ∀ {α : Type} (a : α), P (pure a))
    (bind : ∀ {α β : Type} {first : Activity α} {rest : α → Activity β},
      P first → (∀ a, P (rest a)) → P (first >>= rest))
    (calm : ∀ {c : Call}, c.isCalm = true → P (ask c))
    (store : ∀ {c : Store.Call}, c.Tidy → P (askStore c))
    (reload : ∀ p otherwise, P (Part.reload p otherwise))
    (classify : ∀ m, P (Monitor.classify m)) : Stepwise @P where
  done := done
  bind := bind
  calm := calm
  fixed {c} fixed := store (by cases c <;> first | exact trivial | cases fixed)
  change typed tidy miss failed rest reloads h := by
    refine bind (store tidy) fun answer => ?_
    cases answer with
    | error failure => exact failed failure
    | ok answer =>
      rw [reloads]
      split
      · exact bind (reload _ _) fun _ => h answer
      · exact h answer
  start p := reload p _
  classify := classify

namespace Stepwise

variable (h : Stepwise @P)

include h

theorem loadAll : P loadAll := h.bind (h.start .devices) fun _ => h.start .rules

/-! ### Messages -/

theorem deliver (deviceId : Datum) (outcome : Outcome) : P (deliver deviceId outcome) := by
  refine h.bind (h.calm rfl) fun _ => h.bind (h.calm rfl) fun delivered => ?_
  split
  · exact h.calm rfl
  · exact h.done _

theorem ingest (s : Submission) : P (ingest s) := by
  refine h.bind (h.calm rfl) fun _ => h.bind (h.calm rfl) fun now => ?_
  refine h.bind (h.classify _) fun answer => ?_
  cases answer with
  | error failure => exact h.done _
  | ok outcome =>
    refine h.bind (h.fixed rfl) fun answer => ?_
    cases answer with
    | error failure => exact h.done _
    | ok _ =>
      dsimp only
      split
      · exact h.bind (h.deliver _ _) fun _ => h.done _
      · exact h.done _

/-! ### Sweeps -/

theorem report (address : Datum) (problem : Problem) : P (report address problem) := by
  unfold Monitor.report
  split
  · split
    · exact h.calm rfl
    · refine h.bind (h.ingest _) fun answer => ?_
      cases answer with
      | error failure => exact h.calm rfl
      | ok outcome => exact h.done _
  · exact h.calm rfl

theorem check (address : Datum) : P (check address) := by
  refine h.bind (h.calm rfl) fun probe => ?_
  dsimp only
  cases probe.problem? with
  | none =>
    split
    · exact h.bind (h.calm rfl) fun _ => h.done _
    · exact h.done _
  | some problem =>
    have reported : P (Monitor.report address problem >>= fun _ => pure true) :=
      h.bind (h.report address problem) fun _ => h.done _
    split
    · exact h.bind (h.calm rfl) fun _ => reported
    · exact reported

theorem checkAll (addresses : List Datum) : P (checkAll addresses) := by
  induction addresses with
  | nil => exact h.done _
  | cons address rest ih =>
    exact h.bind (h.check address) fun _ => h.bind ih fun _ => h.done _

theorem sweep : P sweep := h.bind (h.calm rfl) fun _ => h.checkAll _

/-! ### Reports -/

theorem monthReport (days minimum : Datum) (stop : Option Moment) :
    P (monthReport days minimum stop) := by
  refine h.bind (h.calm rfl) fun now => ?_
  cases periodStart (stop.getD now) days with
  | error failure => exact h.done _
  | ok start =>
    refine h.bind (h.fixed rfl) fun answer => ?_
    cases answer with
    | error failure => exact h.done _
    | ok volumes => exact h.bind (h.calm rfl) fun _ => h.done _

end Stepwise

end Monitor

end DeviceAlerts
