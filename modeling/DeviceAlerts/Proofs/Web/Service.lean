import DeviceAlerts.Proofs.Course
import DeviceAlerts.Proofs.Rule.Grouping
import DeviceAlerts.Proofs.Web.Showing
import DeviceAlerts.Proofs.Web.Stepwise

/-! The service keeps its caches up to date: whatever is requested, every change of the devices or
the tags is followed by the reload of the part that it concerns. What is shown from the caches is
therefore what the stores hold. -/

namespace DeviceAlerts.Web

open DeviceAlerts.Form DeviceAlerts.Monitor DeviceAlerts.Time

/-- An activity that leaves the caches up to date, unless a refresh fails. -/
abbrev Safe {α : Type} (activity : Activity α) : Prop :=
  Leads Monitor.Site.UpToDate activity fun _ => Monitor.Site.UpToDate

theorem safe_pure {α : Type} (a : α) : Safe (pure a) := leads_pure fun _ h => h

theorem safe_fixed {c : Store.Call} (fixed : c.revises = false) : Safe (askStore c) := by
  have typed : c.Typed := by
    cases c <;> first | exact trivial | cases fixed
  have same (answer : Except Failure c.Answer) : c.hasChanged answer = false := by
    cases c <;> first | rfl | cases fixed
  have asked : Safe (askStore c >>= pure) := by
    refine leads_askStore typed (fun answer _ => safe_pure answer) fun answer changed => ?_
    rw [same answer] at changed
    cases changed
  exact asked

/-- It is safe to change something when a reload follows whenever something has changed. -/
theorem safe_change {α : Type} {c : Store.Call} {otherwise : Notice}
    {next : Except Failure c.Answer → Activity α} (typed : c.Typed)
    (miss : otherwise.tellsMiss = true) (failed : ∀ failure, Safe (next (.error failure)))
    (rest : c.Answer → Activity α)
    (reloads : ∀ answer, next (.ok answer) = if c.hasChanged (.ok answer)
      then c.part.reload otherwise >>= fun _ => rest answer else rest answer)
    (h : ∀ answer, Safe (rest answer)) : Safe (askStore c >>= next) := by
  refine leads_askStore typed (fun answer still => ?_) fun answer changed => ?_
  · cases answer with
    | error failure => exact failed failure
    | ok answer =>
      rw [reloads, still]
      exact h answer
  · cases answer with
    | error failure => cases c <;> cases changed
    | ok answer =>
      rw [reloads, changed]
      exact (leads_reload c.part miss).bind fun _ => h answer

theorem stepwise_safe : Stepwise @Safe where
  done := safe_pure
  bind := Leads.bind
  calm := leads_calm
  fixed := safe_fixed
  change typed _ miss := safe_change typed miss
  start p s hs silent := leads_reload p rfl s hs.staleAt silent
  classify := leads_classify

/-! ### In service -/

/-- What the service deals with, one after the other. -/
inductive Occasion
  | start
  | request (r : Request)
  | sweep

def Occasion.act (site : Site) : Occasion → Activity Unit
  | start => loadAll
  | request r => respond site r >>= fun _ => pure ()
  | sweep => Monitor.sweep >>= fun _ => pure ()

/-- Leaves behind the notices that are told on the way. -/
def serve (site : Site) (s : Setting) (o : Occasion) : Setting × List Notice :=
  ((s.run (o.act site)).2, s.told (o.act site))

theorem stepwise_act {P : {α : Type} → Activity α → Prop} (h : Stepwise @P) (site : Site)
    (o : Occasion) : P (o.act site) := by
  cases o with
  | start => exact h.loadAll
  | request r => exact h.bind (h.respond site r) fun _ => h.done _
  | sweep => exact h.bind h.sweep fun _ => h.done _

theorem upToDate_after (site : Site) {s : Setting} (h : s.site.UpToDate) {occasions : List Occasion}
    (loaded : ∀ told ∈ Course.events (serve site) s occasions, ∀ n ∈ told, n.tellsMiss = false) :
    (Course.after (serve site) s occasions).site.UpToDate := by
  induction occasions generalizing s with
  | nil => exact h
  | cons o rest ih =>
    rw [Course.events_cons, List.forall_mem_cons] at loaded
    exact ih (stepwise_act stepwise_safe site o s h loaded.1) loaded.2

/-- The route that a request takes. -/
def Request.route? (r : Request) : Option Route :=
  Route.ofPath? (decodePath (String.ofList r.target.path))

section

variable {s : Setting} {r : Request} {route : Route} {response : Response}

theorem run_respond (site : Site) (known : r.route? = some route)
    (allowed : route.methods.contains r.verb = true)
    (h : (s.run (perform site r route)).1 = .ok response) :
    (s.run (respond site r)).1 = response := by
  unfold Request.route? at known
  simp only [respond, known, allowed, if_true]
  rw [Setting.run_bind, h]
  rfl

/-- Tags are shown as active when they compile. -/
theorem viewTag_eq (h : s.site.UpToDate) {t : Tag} (ht : t ∈ s.site.rows) :
    viewTag s.site.rules.snapshot t = tagView t t.compiles := by
  obtain ⟨⟨rules, hrules, hgroups⟩, -⟩ := h.current .rules
  obtain ⟨-, rfl⟩ := Compilation.rules_ofTags.mp hrules
  rw [viewTag, Book.isActive_eq_compiles h.tags.numbered hgroups ht]

/-- Whether a tag belongs to the device that is asked for, if any is. -/
def isOf (deviceId : Option Int) (t : Tag) : Bool := deviceId.all fun id => t.deviceId == .int id

theorem run_listTags (h : s.site.UpToDate) (intact : (s.chances 0).fault = none)
    (deviceId : Option Int) :
    ∃ items, (s.run (listTags deviceId)).1 = .ok (.json 200 (listing items)) ∧
      List.Forall₂ (fun t d => tagView t t.compiles = .sound d ∧
          d.get? "active" = some (.bool t.compiles))
        (s.site.rows.filter (isOf deviceId)) items := by
  have hview (t : Tag) (ht : t ∈ s.site.rows.filter (isOf deviceId)) :
      ∃ d, viewTag s.site.rules.snapshot t = .sound d ∧
        tagView t t.compiles = .sound d ∧ d.get? "active" = some (.bool t.compiles) := by
    have hstored := List.mem_of_mem_filter ht
    rw [viewTag_eq h hstored]
    obtain ⟨d, hd, hmark⟩ := tagView_sound (h.tags.typed t hstored) t.compiles
    exact ⟨d, hd, hd, hmark⟩
  obtain ⟨items, hitems, heach⟩ := showAll_sound hview
  refine ⟨items, ?_, heach⟩
  rw [listTags, onStore, Setting.run_bind, Setting.run_askStore, s.answer_store_ok intact]
  show respondWithAll
    (showAll (viewTag s.site.rules.snapshot) (s.site.rows.filter (isOf deviceId))) = _
  rw [hitems]
  rfl

/-- The rules are counted by the tags that are stored. -/
theorem run_showStoreHealth (h : s.site.UpToDate) (site : Site) :
    ∃ fields, (s.run (showStoreHealth site)).1 = .ok (.json 200 (.record fields)) ∧
      Table.get? fields "rules_loaded" = some (.int s.site.rows.length) ∧
      Table.get? fields "rules_active" = some (.int (s.site.rows.countP Tag.compiles)) := by
  obtain ⟨⟨rules, hrules, hgroups⟩, hcount⟩ := h.current .rules
  obtain ⟨-, rfl⟩ := Compilation.rules_ofTags.mp hrules
  rw [← hcount, ← Tag.length_filterMap_rule?, ← Book.ruleCount_of_groups hgroups]
  exact ⟨_, rfl, rfl, rfl⟩

/-- From empty stores on, whatever the service deals with, the snapshots are those of what is stored
as long as no refresh fails: the rules are those of the tags that compile, in their order, and the
devices are found by number and by address. So the tags are listed with the mark of those that
compile, and the report on the stores counts them. -/
theorem current_after_occasions (site : Site) {s : Setting} (opened : s.site = .fresh .empty)
    {occasions : List Occasion}
    (loaded : ∀ told ∈ Course.events (serve site) s occasions, ∀ n ∈ told, n.tellsMiss = false) :
    let last := Course.after (serve site) s occasions
    (∀ p, last.site.Current p) ∧
    (∀ r deviceId, r.route? = some .tags → r.verb = "GET" →
      r.readQuery ((Field.named "deviceId").optional readInteger) = .sound deviceId →
      (last.chances 0).fault = none →
      ∃ items, (last.run (respond site r)).1 = .json 200 (listing items) ∧
        List.Forall₂ (fun t d => tagView t t.compiles = .sound d ∧
            d.get? "active" = some (.bool t.compiles))
          (last.site.rows.filter (isOf deviceId)) items) ∧
    (∀ r, r.route? = some .storeHealth → r.verb = "GET" →
      ∃ fields, (last.run (respond site r)).1 = .json 200 (.record fields) ∧
        Table.get? fields "rules_loaded" = some (.int last.site.rows.length) ∧
        Table.get? fields "rules_active" =
          some (.int (last.site.rows.countP Tag.compiles))) := by
  intro last
  have hlast : last.site.UpToDate :=
    upToDate_after site (opened ▸ Monitor.Site.upToDate_fresh) loaded
  refine ⟨hlast.current, fun r deviceId known get asked intact => ?_, fun r known get => ?_⟩
  · obtain ⟨items, hrun, heach⟩ := run_listTags hlast intact deviceId
    refine ⟨items, run_respond site known (by rw [get]; rfl) ?_, heach⟩
    rw [perform, if_pos get, asked]
    exact hrun
  · obtain ⟨fields, hrun, hcounts⟩ := run_showStoreHealth hlast site
    exact ⟨fields, run_respond site known (by rw [get]; rfl) hrun, hcounts⟩

end

def asking (method path : String) (body : Body) : Request := ⟨method, ⟨path.toList, []⟩, [], body⟩

def tagBody (regexp : String) : Body :=
  .value (.record [("name", .text "heat"), ("deviceId", .int 1), ("regexp", .text regexp),
    ("compareType", .text ">"), ("value", .text "5"), ("subject", .text "HIGH")])

/-- A device is given two tags, one of which does not compile, and sends a message that the other
one is for. Then somebody deletes a tag that nobody has created. -/
def firstDay : List Occasion := [.start,
  .request (asking "POST" "/api/devices" (.value (.record [("name", .text "boiler"),
    ("deviceType", .text "heater"), ("address", .text "10.0.0.7")]))),
  .request (asking "POST" "/api/tags" (tagBody ".")),
  .request (asking "POST" "/api/tags" (tagBody "(")),
  .request (asking "POST" "/api/messages/send_msg" (.value (.record [("message", .text "9"),
    ("message_type", .text "General"), ("component", .text "core"),
    ("address", .text "10.0.0.7")]))),
  .request (asking "DELETE" "/api/tags/7" .absent)]

def opening : Setting := ⟨.fresh .empty, fun _ => .calm ⟨0, none⟩⟩

theorem current_after_occasions_firstDay :
    let site : Site := ⟨"memory", none⟩
    let last := Course.after (serve site) opening firstDay
    (∃ items, (last.run (respond site (asking "GET" "/api/tags" .absent))).1 =
      .json 200 (listing items) ∧ items.length = 3) ∧
    ∃ fields, (last.run (respond site (asking "GET" "/api/health/store" .absent))).1 =
        .json 200 (.record fields) ∧
      Table.get? fields "rules_loaded" = some (.int 3) ∧
      Table.get? fields "rules_active" = some (.int 2) := by
  intro site last
  have loaded : ∀ told ∈ Course.events (serve site) opening firstDay,
      ∀ n ∈ told, n.tellsMiss = false := by
    decide +kernel
  obtain ⟨-, hlisted, hreported⟩ := current_after_occasions site rfl loaded
  have hshown : (last.site.rows.filter (isOf none)).length = 3 := by decide +kernel
  have hcount : last.site.rows.length = 3 := by decide +kernel
  have hactive : last.site.rows.countP Tag.compiles = 2 := by decide +kernel
  have hintact : (last.chances 0).fault.isNone = true := by decide +kernel
  obtain ⟨items, hitems, heach⟩ := hlisted (asking "GET" "/api/tags" .absent) none
    (by decide +kernel) (by decide +kernel) rfl (Option.isNone_iff_eq_none.mp hintact)
  obtain ⟨fields, hfields, hall, hsome⟩ := hreported (asking "GET" "/api/health/store" .absent)
    (by decide +kernel) (by decide +kernel)
  exact ⟨⟨items, hitems, heach.length_eq.symm.trans hshown⟩, fields, hfields,
    hall.trans (congrArg (fun n : Nat => some (Datum.int n)) hcount),
    hsome.trans (congrArg (fun n : Nat => some (Datum.int n)) hactive)⟩

end DeviceAlerts.Web
