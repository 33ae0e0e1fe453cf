import DeviceAlerts.Proofs.Monitor.Stepwise
import DeviceAlerts.Proofs.Monitor.Tickets

/-! Caches in order. Nothing is published but by refreshes, and these publish under the tickets that
they have taken. So whatever is done, and whatever fails of it, no snapshot stands under a ticket
that has not been issued; whoever refreshes next is not too late. -/

namespace DeviceAlerts

open DeviceAlerts.Monitor DeviceAlerts.Time

namespace Monitor

/-- No snapshot stands under a ticket that has not been issued. -/
def Site.InOrder (s : Site) : Prop := ∀ p, (s.cache p).published ≤ (s.cache p).issued

theorem Site.inOrder_fresh (store : Store) : (Site.fresh store).InOrder := by
  intro p
  cases p <;> exact Int.le_refl 0

/-- Publishes of both parts only what it has read under its tickets. -/
def Upright {α : Type} (activity : Activity α) : Prop := ∀ p g, Part.Honest p activity g

section

variable {α β : Type}

theorem upright_pure (a : α) : Upright (pure a : Activity α) := fun _ _ => trivial

theorem Upright.bind {first : Activity α} {rest : α → Activity β} (h : Upright first)
    (later : ∀ a, Upright (rest a)) : Upright (first >>= rest) :=
  fun p g => Program.keeps_bind.mpr (Program.Keeps.mono (h p g) fun g a _ => later a p g)

/-- Whether a question publishes nothing. -/
def Call.isSilent : Call → Bool
  | rules (.publish _ _) | devices (.publish _ _) => false
  | _ => true

theorem upright_call {c : Call} (silent : c.isSilent = true) : Upright (ask c) := by
  refine fun p g => Part.honest_ask ?_ fun _ => trivial
  cases c with
  | rules call | devices call =>
    cases call with
    | publish _ _ => cases silent
    | _ => cases p <;> rfl
  | _ => cases p <;> rfl

theorem Upright.run {activity : Activity α} (h : Upright activity) {s : Setting}
    (start : s.site.InOrder) : (s.run activity).2.site.InOrder := by
  intro p
  -- whatever is read may count as good: nothing is asked here of the snapshot itself
  let InStep (g : Option (Attempt p)) (now : Setting) : Prop :=
    Watermark (s.site.cache p).issued (fun _ => True) (now.site.cache p) fun _ : Unit => g
  have first : InStep none s :=
    ⟨start p, nofun, nofun, fun above => absurd (start p) (Int.not_le.mpr above)⟩
  have step : ∀ g now c, InStep g now → p.honesty.may g c →
      p.honesty.reckons g c (Setting.answer c now).1 ∧
        InStep (p.honesty.after g c (Setting.answer c now).1) (Setting.answer c now).2 := by
    intro g now c w may
    have moved := w.answer (x := now.chances 0) (c := c) (i := ()) may fun _ _ => trivial
    refine ⟨trivial, ?_⟩
    rwa [show Function.update (fun _ : Unit => g) () _ = fun _ => Attempt.moved g _ from
      funext fun _ => Function.update_self () _ _] at moved
  obtain ⟨_, -, last⟩ := Program.Keeps.run step (h p none) first
  exact last.published_le

end

/-! ### Refreshes -/

theorem upright_reload (p : Part) (otherwise : Notice) : Upright (p.reload otherwise) := by
  rw [reload_eq]
  refine Upright.bind (fun q g => q.honest_refresh p g) fun answer => ?_
  cases answer with
  | error failure => exact upright_call rfl
  | ok snapshot => exact upright_pure ()

/-! ### Messages -/

theorem upright_clear (r : Rule) : Upright (clear r) := by
  rw [Setting.clear_eq]
  refine (upright_call rfl).bind fun answer => ?_
  cases answer with
  | error failure => exact (upright_call rfl).bind fun _ => upright_pure _
  | ok found =>
    refine Upright.bind ?_ fun _ => (upright_reload .rules _).bind fun _ => upright_pure _
    cases found with
    | true => exact upright_pure ()
    | false => exact upright_call rfl

theorem upright_trip (r : Rule) (draft : TagDraft) : Upright (trip r draft) := by
  refine (upright_call rfl).bind fun answer => ?_
  cases answer with
  | error failure => exact (upright_call rfl).bind fun _ => upright_pure _
  | ok tag => exact (upright_reload .rules _).bind fun _ => upright_pure _

theorem upright_handle (r : Rule) : Upright (handle r) := by
  refine (upright_call rfl).bind fun book => ?_
  cases plan r book with
  | ignore | settled => exact upright_pure _
  | delete id => exact (upright_clear r).bind fun _ => upright_pure _
  | create draft => exact (upright_trip r draft).bind fun _ => upright_pure _

theorem upright_classify (m : Message) : Upright (classify m) := by
  refine (upright_call rfl).bind fun book => ?_
  cases m.deviceId.asKey with
  | error fault => exact upright_pure _
  | ok deviceId =>
    refine (upright_call rfl).bind fun _ => ?_
    cases (scan (body m) (Book.rulesOf book deviceId)).2 with
    | none => exact upright_pure _
    | some r =>
      dsimp only
      split
      · exact (upright_handle r).bind fun _ => upright_pure _
      · exact upright_pure _

theorem stepwise_upright : Stepwise @Upright := by
  refine .of_calls upright_pure Upright.bind (fun {c} calm => upright_call ?_)
    (fun _ => upright_call rfl) upright_reload upright_classify
  cases c with
  | rules call | devices call => cases call <;> first | rfl | cases calm
  | _ => rfl

end Monitor

end DeviceAlerts
