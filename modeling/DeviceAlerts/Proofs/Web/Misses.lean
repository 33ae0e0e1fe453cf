import DeviceAlerts.Proofs.Monitor.Misses
import DeviceAlerts.Proofs.Web.Service

/-! Requests whose refresh is missed. A change has been made when the refresh that follows it reads
the store, so a refresh that fails must neither undo it nor tell of it. All handlers have one shape:
a store call, a reload if the call has changed anything, and an answer that is made from what the
call has returned. Only for the mark of a tag the rules in force are looked at. -/

namespace DeviceAlerts

open DeviceAlerts.Form DeviceAlerts.Monitor DeviceAlerts.Text DeviceAlerts.Time

namespace Web

/-- The part whose records are requested along a route. -/
def Route.part? : Route → Option Part
  | devices | device _ => some .devices
  | tags | tag _ => some .rules
  | _ => none

/-- A response whose record lacks one of its fields. -/
def Response.without (name : String) (r : Response) : Response :=
  { r with content := match r.content with
    | .json d => .json (d.without name)
    | other => other }

/-- The same response, but for the mark of the tag that is shown. -/
def Response.SameFor (p : Part) (a b : Response) : Prop :=
  match p with
  | .devices => a = b
  | .rules => a.without "active" = b.without "active"

theorem Response.sameFor_self (p : Part) (r : Response) : r.SameFor p r := by
  cases p <;> rfl

/-- The same for answers that need not be responses. -/
inductive AlikeFor (p : Part) : Except Failure Response → Except Failure Response → Prop
  | ok {a b : Response} (same : a.SameFor p b) : AlikeFor p (.ok a) (.ok b)
  | error (failure : Failure) : AlikeFor p (.error failure) (.error failure)

theorem alikeFor_self (p : Part) (answer : Except Failure Response) : AlikeFor p answer answer := by
  cases answer with
  | ok response => exact .ok (response.sameFor_self p)
  | error failure => exact .error failure

/-! ### Steps of a handler -/

section

variable {p : Part}

theorem settle_answer (answer : Except Failure Response) :
    Settle (AlikeFor p) (pure answer : Handler) (pure answer) :=
  settle_pure (alikeFor_self p answer)

theorem parallel_answer (answer : Except Failure Response) :
    Parallel (AlikeFor p) (pure answer : Handler) :=
  (settle_answer answer).parallel

theorem parallel_onSound {α : Type} {checked : Checked α} {next : α → Handler}
    (h : ∀ a, Parallel (AlikeFor p) (next a)) : Parallel (AlikeFor p) (onSound checked next) := by
  cases checked with
  | sound a => exact h a
  | flawed flaws => exact parallel_answer _

theorem parallel_onBody {r : Request} {next : Option Datum → Handler}
    (h : ∀ given, Parallel (AlikeFor p) (next given)) : Parallel (AlikeFor p) (onBody r next) := by
  unfold onBody
  cases r.body.value? with
  | ok given => exact h given
  | error response => exact parallel_answer _

end

/-! ### Devices -/

theorem parallel_getDevice (id : Int) : Parallel (AlikeFor .devices) (getDevice id) :=
  parallel_change (c := .getDevice _) rfl .deviceChangeNotLoaded
    (fun device => pure (answerDevice 200 device)) (fun _ => settle_answer _) (fun _ => rfl)
    fun _ => settle_answer _

theorem parallel_createDevice (f : DeviceForm) :
    Parallel (AlikeFor .devices) (createDevice f) := by
  unfold createDevice
  split
  · exact parallel_answer _
  · split
    · exact parallel_answer _
    · exact parallel_change (c := .createDevice _) rfl .deviceChangeNotLoaded
        (fun device => pure (answerDevice 201 (some device))) (fun _ => settle_answer _)
        (fun _ => rfl) fun _ => settle_answer _

theorem parallel_patchDevice (id : Int) (p : DevicePatch) :
    Parallel (AlikeFor .devices) (patchDevice id p) := by
  unfold patchDevice
  split
  · exact parallel_answer _
  · split
    · exact parallel_answer _
    · split
      · exact parallel_getDevice id
      · exact parallel_change (c := .updateDevice _ _) rfl .deviceChangeNotLoaded
          (fun device => pure (answerDevice 200 device)) (fun _ => settle_answer _)
          (fun device => by cases device <;> rfl) fun _ => settle_answer _

theorem parallel_deleteDevice (id : Int) : Parallel (AlikeFor .devices) (deleteDevice id) :=
  parallel_change (c := .deleteDevice _) rfl .deviceChangeNotLoaded
    (fun deleted => pure (.ok (if deleted then .noContent else deviceNotFound)))
    (fun _ => settle_answer _) (fun deleted => by cases deleted <;> rfl) fun _ => settle_answer _

/-! ### Tags -/

theorem alikeFor_viewTag (status : Nat) (t : Tag) (book other : Book) :
    AlikeFor .rules (respondWith status (viewTag book t))
      (respondWith status (viewTag other t)) := by
  have same := tagView_without t (book.isActive t.id) (other.isActive t.id)
  unfold viewTag
  generalize tagView t (book.isActive t.id) = first at same ⊢
  generalize tagView t (other.isActive t.id) = second at same ⊢
  cases first with
  | sound d =>
    cases second with
    | sound e =>
      exact .ok (congrArg (fun d => Response.json status d) (Checked.sound.inj same))
    | flawed flaws => cases same
  | flawed flaws =>
    cases second with
    | sound e => cases same
    | flawed other =>
      cases same
      exact .error _

/-- Whatever rules are in force, a tag is shown as the same but for its mark. -/
theorem settle_answerTag (status : Nat) (t : Option Tag) :
    Settle (AlikeFor .rules) (answerTag status t) (answerTag status t) := by
  cases t with
  | none => exact settle_answer _
  | some t => exact fun _ _ => ⟨alikeFor_viewTag status t _ _, rfl, rfl⟩

theorem parallel_getTag (id : Int) : Parallel (AlikeFor .rules) (getTag id) :=
  parallel_change (c := .getTag _) rfl .tagChangeNotLoaded (answerTag 200)
    (fun _ => settle_answer _) (fun _ => rfl) (settle_answerTag 200)

theorem parallel_createTag (f : TagForm) : Parallel (AlikeFor .rules) (createTag f) := by
  unfold createTag
  split
  · exact parallel_answer _
  · exact parallel_change (c := .createTag _) rfl .tagChangeNotLoaded
      (fun tag => answerTag 201 (some tag)) (fun _ => settle_answer _) (fun _ => rfl)
      fun _ => settle_answerTag _ _

theorem parallel_patchTag (id : Int) (p : TagPatch) :
    Parallel (AlikeFor .rules) (patchTag id p) := by
  unfold patchTag
  split
  · exact parallel_answer _
  · split
    · exact parallel_getTag id
    · exact parallel_change (c := .updateTag _ _) rfl .tagChangeNotLoaded (answerTag 200)
        (fun _ => settle_answer _) (fun tag => by cases tag <;> rfl) (settle_answerTag 200)

theorem parallel_deleteTag (id : Int) : Parallel (AlikeFor .rules) (deleteTag id) :=
  parallel_change (c := .deleteTag _) rfl .tagChangeNotLoaded
    (fun deleted => pure (.ok (if deleted then .noContent else tagNotFound)))
    (fun _ => settle_answer _) (fun deleted => by cases deleted <;> rfl) fun _ => settle_answer _

/-! ### Requests -/

theorem parallel_perform (site : Site) {r : Request} {route : Route} {p : Part}
    (concerned : route.part? = some p) (change : r.verb ≠ "GET") :
    Parallel (AlikeFor p) (perform site r route) := by
  cases route with
  | devices =>
    cases concerned
    rw [perform, if_neg change]
    exact parallel_onBody fun _ => parallel_onSound parallel_createDevice
  | device id =>
    cases concerned
    rw [perform, if_neg change]
    split
    · exact parallel_onSound parallel_deleteDevice
    · exact parallel_onBody fun _ => parallel_onSound fun _ => parallel_patchDevice _ _
  | tags =>
    cases concerned
    rw [perform, if_neg change]
    exact parallel_onBody fun _ => parallel_onSound parallel_createTag
  | tag id =>
    cases concerned
    rw [perform, if_neg change]
    split
    · exact parallel_onSound parallel_deleteTag
    · exact parallel_onBody fun _ => parallel_onSound fun _ => parallel_patchTag _ _
  | _ => cases concerned

theorem settle_answerFailure (r : Request) (path : String) (failure : Failure) (p : Part) :
    Settle (Response.SameFor p) (answerFailure r path failure) (answerFailure r path failure) := by
  cases failure with
  | unavailable reason => exact fun _ _ => ⟨Response.sameFor_self p _, rfl, rfl⟩
  | _ => exact settle_pure (Response.sameFor_self p _)

theorem parallel_respond (site : Site) {r : Request} {route : Route} {p : Part}
    (known : r.route? = some route) (concerned : route.part? = some p) (change : r.verb ≠ "GET") :
    Parallel (Response.SameFor p) (respond site r) := by
  unfold Request.route? at known
  unfold respond
  simp only [known]
  split
  · refine (parallel_perform site concerned change).bind fun answer other alike => ?_
    cases alike with
    | ok same => exact settle_pure same
    | error failure => exact settle_answerFailure _ _ _ _
  · exact (settle_pure (Response.sameFor_self p _)).parallel

/-! ### In service -/

/-- Whatever the service deals with, its caches stay in order. -/
theorem inOrder_after (site : Site) {s : Setting} (h : s.site.InOrder) (occasions : List Occasion) :
    (Course.after (serve site) s occasions).site.InOrder := by
  have step : ∀ (s : Setting) (o : Occasion), s.site.InOrder → (serve site s o).1.site.InOrder :=
    fun _ o hs => (stepwise_act stepwise_upright site o).run hs
  exact Course.after_induction (serve site) step h occasions

/-- From empty stores on, whatever the service has dealt with and whatever has failed of it, a
request to create, change or delete a device or a tag comes to the same whether the refresh that
follows the change can read the store or cannot. The stores end up the same and so do the responses,
but for the mark of a tag that is shown. Where the refresh is missed, the snapshots are as they were
before, under the same tickets. Whatever is requested afterwards, if the store is as the request has
left it, the next refresh that succeeds catches up: then the snapshot holds the same as that of the
other run, which had been refreshed after the change or is refreshed later. -/
theorem change_outlives_miss (site : Site) {s : Setting} (opened : s.site = .fresh .empty)
    (occasions : List Occasion) {r : Request} {route : Route} {p : Part}
    (known : r.route? = some route) (concerned : route.part? = some p) (change : r.verb ≠ "GET")
    {good bad : Setting} (reached : good.site = (Course.after (serve site) s occasions).site)
    (same : bad.site = good.site) (clock : (bad.chances 0).now = (good.chances 0).now)
    (intact : good.FailsOn (fun _ => false) (respond site r))
    (missed : bad.FailsOn Store.Call.isListing (respond site r)) :
    let whole := good.run (respond site r)
    let cut := bad.run (respond site r)
    cut.2.site.store = whole.2.site.store ∧ whole.1.SameFor p cut.1 ∧
    bad.site.Kept cut.2.site ∧
    ∀ q quiet, let later := Course.after (serve site) cut.2 quiet
      later.site.store = cut.2.site.store → (later.run q.refresh).1.isOk = true →
        ((whole.2.site.cache q).published ≠ (good.site.cache q).published →
          whole.2.site.Agree q (later.run q.refresh).2.site) ∧
        ∀ still, let meanwhile := Course.after (serve site) whole.2 still
          meanwhile.site.store = whole.2.site.store → (meanwhile.run q.refresh).1.isOk = true →
            (meanwhile.run q.refresh).2.site.Agree q (later.run q.refresh).2.site := by
  intro whole cut
  have inOrder : good.site.InOrder := by
    rw [reached]
    exact inOrder_after site (opened ▸ Site.inOrder_fresh .empty) occasions
  have twins := parallel_respond site known concerned change good bad same inOrder clock intact
    missed
  have inOrder' := (stepwise_upright.respond site r).run (same ▸ inOrder)
  refine ⟨twins.store, twins.results, same ▸ twins.kept, fun q quiet unchanged ok => ?_⟩
  have healed := current_of_run_refresh (inOrder_after site inOrder' quiet) ok
  have stored := (q.peruses_refresh.run _).2.trans (unchanged.trans twins.store)
  constructor
  · intro refreshed
    exact ((twins.caught q).resolve_left refreshed).agree healed stored
  · intro still meanwhile unchanged' ok'
    have redone := current_of_run_refresh
      (inOrder_after site ((stepwise_upright.respond site r).run inOrder) still) ok'
    have stored' := (q.peruses_refresh.run meanwhile).2.trans unchanged'
    exact redone.agree healed (stored.trans stored'.symm)

/-! A second tag is created while the store cannot be read. -/

def firstTag : List Occasion := [.start,
  .request (asking "POST" "/api/devices" (.value (.record [("name", .text "boiler"),
    ("deviceType", .text "heater"), ("address", .text "10.0.0.7")]))),
  .request (asking "POST" "/api/tags" (tagBody "."))]

def secondTag : Request := asking "POST" "/api/tags" (tagBody "9")

/-- The store cannot be read when it is asked for the second time. -/
def breakdown : Chance := { Chance.calm ⟨0, none⟩ with fault := some (.unavailable "down") }

theorem change_outlives_miss_secondTag :
    let site : Site := ⟨"memory", none⟩
    let good := Course.after (serve site) opening firstTag
    let bad : Setting := ⟨good.site, fun n => if n = 2 then breakdown else .calm ⟨0, none⟩⟩
    let whole := good.run (respond site secondTag)
    let cut := bad.run (respond site secondTag)
    cut.2.site.store = whole.2.site.store ∧ whole.1.SameFor .rules cut.1 ∧
    whole.2.site.rules.snapshot.ruleCount = 2 ∧ cut.2.site.rules.snapshot.ruleCount = 1 ∧
    good.site.Kept cut.2.site ∧ whole.2.site.Agree .rules (cut.2.run refreshRules).2.site := by
  intro site good bad whole cut
  have intact : good.FailsOn (fun _ => false) (respond site secondTag) := by
    unfold Setting.FailsOn
    decide +kernel
  have missed : bad.FailsOn Store.Call.isListing (respond site secondTag) := by
    unfold Setting.FailsOn
    decide +kernel
  have known : secondTag.route? = some .tags := by decide +kernel
  have same : bad.site = good.site := rfl
  have clock : (bad.chances 0).now = (good.chances 0).now := by decide +kernel
  obtain ⟨store, responses, kept, caught⟩ := change_outlives_miss site rfl firstTag known rfl
    (by decide +kernel) rfl same clock intact missed
  refine ⟨store, responses, by decide +kernel, by decide +kernel, kept, ?_⟩
  exact (caught .rules [] rfl (by decide +kernel)).1 (by decide +kernel)

end Web

end DeviceAlerts
