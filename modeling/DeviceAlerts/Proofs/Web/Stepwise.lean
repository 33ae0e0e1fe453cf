import DeviceAlerts.Proofs.Monitor.Stepwise
import DeviceAlerts.Web.Handler

/-! Requests step by step. Whatever is requested is answered at once, is read from the stores or the
caches, or is a change that hands over tidy records and is followed by a reload. -/

namespace DeviceAlerts.Monitor.Stepwise

open DeviceAlerts.Form DeviceAlerts.Text DeviceAlerts.Time DeviceAlerts.Web

variable {P : {α : Type} → Activity α → Prop} (h : Stepwise @P)

include h

/-! ### Steps of a handler -/

theorem onSound {α : Type} {checked : Checked α} {next : α → Handler} (later : ∀ a, P (next a)) :
    P (onSound checked next) := by
  cases checked with
  | sound a => exact later a
  | flawed flaws => exact h.done _

theorem onBody {r : Request} {next : Option Datum → Handler} (later : ∀ given, P (next given)) :
    P (onBody r next) := by
  unfold Web.onBody
  cases r.body.value? with
  | ok given => exact later given
  | error response => exact h.done _

theorem onKeys {keys : List Datum} {next : Handler} (later : P next) : P (onKeys keys next) := by
  unfold Web.onKeys
  cases keys.mapM Datum.asKey with
  | ok _ => exact later
  | error fault => exact h.done _

theorem onStore {c : Store.Call} (fixed : c.revises = false) {next : c.Answer → Handler}
    (later : ∀ answer, P (next answer)) : P (onStore c next) := by
  refine h.bind (h.fixed fixed) fun answer => ?_
  cases answer with
  | ok answer => exact later answer
  | error failure => exact h.done _

/-! ### Devices -/

theorem getDevice (id : Int) : P (getDevice id) := h.onStore rfl fun _ => h.done _

theorem createDevice (f : DeviceForm) : P (createDevice f) := by
  unfold Web.createDevice
  split
  · exact h.done _
  next name =>
  split
  · exact h.done _
  next address =>
  exact h.change (c := .createDevice _) trivial (DeviceForm.tidy_draft name address) rfl
    (fun _ => h.done _) (fun device => pure (answerDevice 201 (some device))) (fun _ => rfl)
    fun _ => h.done _

theorem patchDevice (id : Int) (p : DevicePatch) : P (patchDevice id p) := by
  unfold Web.patchDevice
  split
  · exact h.done _
  next name =>
  split
  · exact h.done _
  next address =>
  split
  · exact h.getDevice id
  · have tidy : ∀ c ∈ p.changes, c.Tidy := by
      refine DevicePatch.tidy_changes (fun s hs empty => name ?_) fun s hs empty => address ?_
      · simp [hs, empty]
      · simp [hs, empty]
    exact h.change (c := .updateDevice _ _) trivial tidy rfl (fun _ => h.done _)
      (fun device => pure (answerDevice 200 device)) (fun device => by cases device <;> rfl)
      fun _ => h.done _

theorem deleteDevice (id : Int) : P (deleteDevice id) :=
  h.change (c := .deleteDevice _) trivial trivial rfl (fun _ => h.done _)
    (fun deleted => pure (.ok (if deleted then .noContent else deviceNotFound)))
    (fun deleted => by cases deleted <;> rfl) fun _ => h.done _

/-! ### Tags -/

theorem answerTag (status : Nat) (t : Option Tag) : P (answerTag status t) := by
  cases t with
  | none => exact h.done _
  | some t => exact h.bind (h.calm rfl) fun _ => h.done _

theorem getTag (id : Int) : P (getTag id) := h.onStore rfl fun _ => h.answerTag _ _

theorem createTag (f : TagForm) : P (createTag f) := by
  unfold Web.createTag
  split
  · exact h.done _
  next name =>
  exact h.change (c := .createTag _) f.typed_draft (TagForm.tidy_draft name) rfl
    (fun _ => h.done _) (fun tag => Web.answerTag 201 (some tag)) (fun _ => rfl)
    fun _ => h.answerTag _ _

theorem patchTag (id : Int) (p : TagPatch) : P (patchTag id p) := by
  unfold Web.patchTag
  split
  · exact h.done _
  next name =>
  split
  · exact h.getTag id
  · have tidy : ∀ c ∈ p.changes, c.Tidy := by
      refine TagPatch.tidy_changes fun s hs empty => name ?_
      simp [hs, empty]
    exact h.change (c := .updateTag _ _) p.typed_changes tidy rfl (fun _ => h.done _)
      (Web.answerTag 200) (fun tag => by cases tag <;> rfl) fun _ => h.answerTag _ _

theorem deleteTag (id : Int) : P (deleteTag id) :=
  h.change (c := .deleteTag _) trivial trivial rfl (fun _ => h.done _)
    (fun deleted => pure (.ok (if deleted then .noContent else tagNotFound)))
    (fun deleted => by cases deleted <;> rfl) fun _ => h.done _

/-! ### Messages -/

theorem sendMessage (s : Submission) : P (sendMessage s) := by
  refine h.bind (h.ingest s) fun answer => ?_
  cases answer with
  | error failure => exact h.done _
  | ok outcome => exact h.bind (h.calm rfl) fun _ => h.done _

theorem listMessages (s : Selection) : P (listMessages s) := by
  unfold Web.listMessages
  split
  · refine h.onStore rfl fun messages => h.onKeys ?_
    exact h.bind (h.calm rfl) fun _ => h.done _
  · exact h.done _

/-! ### Requests -/

theorem perform (site : Web.Site) (r : Request) (route : Route) : P (perform site r route) := by
  cases route with
  | health => exact h.bind (h.calm rfl) fun _ => h.done _
  | storeHealth =>
    exact h.bind (h.calm rfl) fun _ => h.bind (h.calm rfl) fun _ => h.bind (h.calm rfl) fun _ =>
      h.bind (h.calm rfl) fun _ => h.bind (h.calm rfl) fun _ => h.done _
  | devices =>
    rw [Web.perform]
    split
    · exact h.onStore rfl fun _ => h.done _
    · exact h.onBody fun _ => h.onSound h.createDevice
  | device id =>
    rw [Web.perform]
    split
    · exact h.onSound h.getDevice
    · split
      · exact h.onSound h.deleteDevice
      · exact h.onBody fun _ => h.onSound fun _ => h.patchDevice _ _
  | tags =>
    rw [Web.perform]
    split
    · refine h.onSound fun _ => h.onStore rfl fun _ => ?_
      exact h.bind (h.calm rfl) fun _ => h.done _
    · exact h.onBody fun _ => h.onSound h.createTag
  | tag id =>
    rw [Web.perform]
    split
    · exact h.onSound h.getTag
    · split
      · exact h.onSound h.deleteTag
      · exact h.onBody fun _ => h.onSound fun _ => h.patchTag _ _
  | messages => exact h.onSound h.listMessages
  | sendMessage => exact h.onBody fun _ => h.onSound h.sendMessage
  | countByType =>
    refine h.onSound fun _ => h.onStore rfl fun _ => ?_
    exact h.bind (h.calm rfl) fun _ => h.done _
  | monthReport => exact h.onSound fun _ => h.bind (h.monthReport _ _ _) fun _ => h.done _

theorem answerFailure (r : Request) (path : String) (failure : Failure) :
    P (answerFailure r path failure) := by
  unfold Web.answerFailure
  split
  · exact h.bind (h.calm rfl) fun _ => h.done _
  · exact h.done _

theorem respond (site : Web.Site) (r : Request) : P (respond site r) := by
  unfold Web.respond
  dsimp only
  split
  · exact h.done _
  · split
    · refine h.bind (h.perform site r _) fun answer => ?_
      cases answer with
      | ok response => exact h.done _
      | error failure => exact h.answerFailure _ _ _
    · exact h.done _

end DeviceAlerts.Monitor.Stepwise
