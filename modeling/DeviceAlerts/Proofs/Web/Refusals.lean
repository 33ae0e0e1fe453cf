import DeviceAlerts.Proofs.Mongo.Faults
import DeviceAlerts.Proofs.Monitor.Retry
import DeviceAlerts.Proofs.Web.Service

/-! Requests whose store call fails. Every request is made for one store call at most, and when
that one fails the failure decides what is answered. What is asked besides, to reload a cache or to
handle a winner, may fail without being noticed in the answer. A conflict is only ever answered for
a device whose address the store says is taken. -/

namespace DeviceAlerts.Web

open DeviceAlerts.Form DeviceAlerts.Monitor DeviceAlerts.Number DeviceAlerts.Text DeviceAlerts.Time

/-- Whether a request is made for a store call. -/
def Route.serves (route : Route) (verb : String) (c : Store.Call) : Bool :=
  match route, c with
  | .devices, .listDevices | .tags, .listTags => verb = "GET"
  | .devices, .createDevice _ | .device _, .getDevice _ | .device _, .updateDevice _ _
  | .device _, .deleteDevice _ | .tags, .createTag _ | .tag _, .getTag _ | .tag _, .updateTag _ _
  | .tag _, .deleteTag _ | .messages, .listMessages _ | .sendMessage, .insertMessage _
  | .countByType, .countByType _ | .monthReport, .dailyVolumes _ => true
  | _, _ => false

/-- What becomes of a request when the store call that it is made for fails. -/
def refusal (c : Store.Call) (failure : Failure) : Except Failure Response :=
  if c.savedAddress?.isSome then refuseDevice failure else .error failure

def NoConflict (result : Except Failure Response) : Prop :=
  ∀ response, result = .ok response → response.status ≠ 409

section

variable {α β σ : Type} (wanted : Store.Call → Bool)

/-! ### Store calls that fail -/

section

variable (answer : (c : monitor.Call) → σ → monitor.Answer c × σ)

/-- The wanted store call that a question asks for, with its failure if it fails. -/
def failureAt : monitor.Call × σ → Option (Store.Call × Failure)
  | (.store c, s) =>
    if wanted c then
      match (answer (.store c) s).1 with
      | .error failure => some (c, failure)
      | .ok _ => none
    else none
  | _ => none

/-- The wanted store calls that fail in a run. -/
def failures (p : Activity α) (s : σ) : List (Store.Call × Failure) :=
  (p.asked answer s).filterMap (failureAt wanted answer)

theorem failures_bind (p : Activity α) (f : α → Activity β) (s : σ) :
    failures wanted answer (p >>= f) s = failures wanted answer p s ++
      failures wanted answer (f (p.run answer s).1) (p.run answer s).2 :=
  Program.filterMap_asked_bind answer _ p f s

end

/-- Whether a question asks for a wanted store call. -/
def isWanted : Monitor.Call → Bool
  | .store c => wanted c
  | _ => false

/-- However it is answered, no wanted store call fails in the activity. -/
def Aside (p : Activity α) : Prop :=
  ∀ (σ : Type) (answer : (c : monitor.Call) → σ → monitor.Answer c × σ) (s : σ),
    failures wanted answer p s = []

/-- What a handler comes to: a result without a conflict, or the refusal of its only wanted store
call that failed. -/
inductive Replies : List (Store.Call × Failure) → Except Failure Response → Prop
  | other {result : Except Failure Response} (h : NoConflict result) : Replies [] result
  | refused (c : Store.Call) (failure : Failure) : Replies [(c, failure)] (refusal c failure)

/-- However a handler is answered, only the failure of a wanted store call is passed on. -/
def Passes (handler : Handler) : Prop :=
  ∀ (σ : Type) (answer : (c : monitor.Call) → σ → monitor.Answer c × σ) (s : σ),
    Replies (failures wanted answer handler s) (handler.run answer s).1

variable {wanted}

/-! ### Activities aside -/

theorem aside_pure (a : α) : Aside wanted (pure a : Activity α) := fun _ _ _ => rfl

theorem Aside.bind {p : Activity α} {f : α → Activity β} (first : Aside wanted p)
    (later : ∀ a, Aside wanted (f a)) : Aside wanted (p >>= f) := by
  intro σ answer s
  rw [failures_bind, first σ answer s, later _ σ answer _, List.append_nil]

theorem aside_ask {c : Monitor.Call} (other : isWanted wanted c = false) :
    Aside wanted (ask c) := by
  intro σ answer s
  have asked : (ask c).asked answer s = [(c, s)] := rfl
  rw [failures, asked]
  cases c with
  | store call =>
    have unwanted : wanted call = false := other
    simp [failureAt, unwanted]
  | _ => rfl

theorem aside_refreshRules (unwanted : wanted .listTags = false) :
    Aside wanted refreshRules := by
  refine Aside.bind (Aside.bind (aside_ask rfl) fun ticket => ?_) fun prepared => ?_
  · refine (aside_ask (c := .store .listTags) unwanted).bind fun answer => ?_
    cases answer with
    | error failure => exact aside_pure _
    | ok tags =>
      refine (aside_ask rfl).bind fun _ => ?_
      cases (Compilation.ofTags tags).rules with
      | error limit => exact aside_pure _
      | ok rules => exact (aside_ask rfl).bind fun _ => aside_pure _
  · cases prepared with
    | error failure => exact aside_pure _
    | ok prepared => exact (aside_ask rfl).bind fun _ => aside_pure _

theorem aside_refreshDevices (unwanted : wanted .listDevices = false) :
    Aside wanted refreshDevices := by
  refine Aside.bind (Aside.bind (aside_ask rfl) fun ticket => ?_) fun prepared => ?_
  · refine (aside_ask (c := .store .listDevices) unwanted).bind fun answer => ?_
    cases answer with
    | error failure => exact aside_pure _
    | ok devices => exact (aside_ask rfl).bind fun _ => (aside_ask rfl).bind fun _ => aside_pure _
  · cases prepared with
    | error failure => exact aside_pure _
    | ok prepared => exact (aside_ask rfl).bind fun _ => aside_pure _

theorem aside_reload (devices : wanted .listDevices = false) (tags : wanted .listTags = false)
    (p : Part) (otherwise : Notice) : Aside wanted (p.reload otherwise) := by
  cases p with
  | devices =>
    refine (aside_refreshDevices devices).bind fun loaded => ?_
    cases loaded with
    | error failure => exact aside_ask rfl
    | ok directory => exact aside_pure _
  | rules =>
    refine (aside_refreshRules tags).bind fun loaded => ?_
    cases loaded with
    | error failure => exact aside_ask rfl
    | ok book => exact aside_pure _

/-- What stays with the tags is aside where no call for tags is wanted. -/
theorem aside_of_staysWithTags {p : Activity α} (h : StaysWithTags p)
    (unwanted : ∀ c, c.kind = .tags → wanted c = false) : Aside wanted p := by
  intro σ answer s
  refine List.filterMap_eq_nil_iff.mpr fun q hq => ?_
  obtain ⟨_, may⟩ := Program.Keeps.exists_may_of_mem_asked (fun _ _ _ => trivial) h q hq
  obtain ⟨c, t⟩ := q
  cases c with
  | store call =>
    have kind : call.kind = .tags := of_decide_eq_true may
    simp [failureAt, unwanted call kind]
  | _ => rfl

/-! ### Results without a conflict -/

theorem noConflict_error (failure : Failure) : NoConflict (.error failure) := nofun

theorem noConflict_ok {response : Response} (h : response.status ≠ 409) :
    NoConflict (.ok response) := by
  intro other same
  cases same
  exact h

theorem noConflict_respondWith {status : Nat} (h : status ≠ 409) (view : Checked Datum) :
    NoConflict (respondWith status view) := by
  unfold respondWith
  cases view with
  | sound d => exact noConflict_ok h
  | flawed flaws => exact noConflict_error _

theorem noConflict_unprocessable (flaws : List Flaw) :
    NoConflict (.ok (.unprocessable flaws)) := by
  refine noConflict_ok ?_
  unfold Response.unprocessable
  split <;> exact nofun

theorem noConflict_answerDevice {status : Nat} (h : status ≠ 409) (d : Option Device) :
    NoConflict (answerDevice status d) := by
  cases d with
  | none => exact noConflict_ok nofun
  | some d => exact noConflict_respondWith h _

/-! ### Steps of a handler -/

theorem passes_pure {result : Except Failure Response} (h : NoConflict result) :
    Passes wanted (pure result : Handler) := fun _ _ _ => .other h

theorem Passes.after {p : Activity α} {next : α → Handler} (first : Aside wanted p)
    (later : ∀ a, Passes wanted (next a)) : Passes wanted (p >>= next) := by
  intro σ answer s
  have run : ((p >>= next).run answer s).1 =
      ((next (p.run answer s).1).run answer (p.run answer s).2).1 :=
    congrArg Prod.fst (Program.run_bind answer p next s)
  rw [failures_bind, first σ answer s, List.nil_append, run]
  exact later _ σ answer _

theorem passes_onSound {checked : Checked α} {next : α → Handler}
    (h : ∀ a, Passes wanted (next a)) : Passes wanted (onSound checked next) := by
  cases checked with
  | sound a => exact h a
  | flawed flaws => exact passes_pure (noConflict_unprocessable flaws)

theorem passes_onBody {r : Request} {next : Option Datum → Handler}
    (h : ∀ given, Passes wanted (next given)) : Passes wanted (onBody r next) := by
  unfold onBody
  cases hbody : r.body.value? with
  | ok given => exact h given
  | error response =>
    refine passes_pure ?_
    unfold Body.value? at hbody
    split at hbody
    · cases hbody
    · cases hbody
    · split at hbody
      · cases hbody
      · split at hbody
        · cases hbody
        · cases hbody
          exact noConflict_unprocessable _
        · cases hbody
          exact noConflict_ok nofun

theorem passes_onKeys {keys : List Datum} {next : Handler} (h : Passes wanted next) :
    Passes wanted (onKeys keys next) := by
  unfold onKeys
  cases keys.mapM Datum.asKey with
  | ok _ => exact h
  | error fault => exact passes_pure (noConflict_error _)

/-- A store call whose failure is refused and after which all goes its way. -/
theorem passes_askStore {c : Store.Call} (here : wanted c = true)
    {next : Except Failure c.Answer → Handler}
    (failed : ∀ failure, next (.error failure) = pure (refusal c failure))
    (later : ∀ answer, Passes wanted (next (.ok answer))) :
    Passes wanted (askStore c >>= next) := by
  intro σ answer s
  have asked : (askStore c).asked answer s = [(.store c, s)] := rfl
  have first : failures wanted answer (askStore c) s =
      (failureAt wanted answer (.store c, s)).toList := by
    rw [failures, asked, List.filterMap_cons]
    cases failureAt wanted answer (.store c, s) <;> rfl
  have run : ((askStore c >>= next).run answer s).1 =
      ((next (answer (.store c) s).1).run answer (answer (.store c) s).2).1 := rfl
  have rest : failures wanted answer (askStore c >>= next) s =
      (failureAt wanted answer (.store c, s)).toList ++
        failures wanted answer (next (answer (.store c) s).1) (answer (.store c) s).2 := by
    rw [failures_bind, first]
    rfl
  rw [run, rest]
  simp only [failureAt, here, if_true]
  cases (answer (.store c) s).1 with
  | ok found => exact later found σ answer _
  | error failure =>
    rw [failed]
    exact .refused c failure

/-- A store call that reloads a cache if it has changed anything. -/
theorem passes_change {c : Store.Call} (here : wanted c = true)
    (devices : wanted .listDevices = false) (tags : wanted .listTags = false)
    (otherwise : Notice) {next : Except Failure c.Answer → Handler} (rest : c.Answer → Handler)
    (failed : ∀ failure, next (.error failure) = pure (refusal c failure))
    (reloads : ∀ answer, next (.ok answer) = if c.hasChanged (.ok answer)
      then c.part.reload otherwise >>= fun _ => rest answer else rest answer)
    (h : ∀ answer, Passes wanted (rest answer)) : Passes wanted (askStore c >>= next) := by
  refine passes_askStore here failed fun answer => ?_
  rw [reloads]
  split
  · exact (Passes.after (aside_reload devices tags _ _)) fun _ => h answer
  · exact h answer

end

/-! ### Devices -/

section

variable {verb segment : String}

theorem passes_getDevice (id : Int) :
    Passes ((Route.device segment).serves verb) (getDevice id) :=
  passes_askStore rfl (fun _ => rfl) fun _ => passes_pure (noConflict_answerDevice (by decide) _)

theorem passes_createDevice (change : verb ≠ "GET") (f : DeviceForm) :
    Passes (Route.devices.serves verb) (createDevice f) := by
  unfold createDevice
  split
  · exact passes_pure (noConflict_ok nofun)
  split
  · exact passes_pure (noConflict_ok nofun)
  exact passes_change (c := .createDevice f.draft) rfl (decide_eq_false change) rfl
    .deviceChangeNotLoaded (fun device => pure (answerDevice 201 (some device))) (fun _ => rfl)
    (fun _ => rfl) fun _ => passes_pure (noConflict_answerDevice (by decide) _)

theorem passes_patchDevice (id : Int) (p : DevicePatch) :
    Passes ((Route.device segment).serves verb) (patchDevice id p) := by
  unfold patchDevice
  split
  · exact passes_pure (noConflict_ok nofun)
  split
  · exact passes_pure (noConflict_ok nofun)
  split
  · exact passes_getDevice id
  exact passes_change (c := .updateDevice _ _) rfl rfl rfl .deviceChangeNotLoaded
    (fun device => pure (answerDevice 200 device)) (fun _ => rfl)
    (fun device => by cases device <;> rfl)
    fun _ => passes_pure (noConflict_answerDevice (by decide) _)

theorem passes_deleteDevice (id : Int) :
    Passes ((Route.device segment).serves verb) (deleteDevice id) := by
  refine passes_change (c := .deleteDevice _) rfl rfl rfl .deviceChangeNotLoaded
    (fun deleted => pure (.ok (if deleted then .noContent else deviceNotFound))) (fun _ => rfl)
    (fun deleted => by cases deleted <;> rfl) fun deleted => passes_pure (noConflict_ok ?_)
  split <;> exact nofun

/-! ### Tags -/

theorem passes_answerTag {wanted : Store.Call → Bool} {status : Nat} (h : status ≠ 409)
    (t : Option Tag) : Passes wanted (answerTag status t) := by
  cases t with
  | none => exact passes_pure (noConflict_ok nofun)
  | some t =>
    exact Passes.after (aside_ask rfl) fun _ => passes_pure (noConflict_respondWith h _)

theorem passes_getTag (id : Int) : Passes ((Route.tag segment).serves verb) (getTag id) :=
  passes_askStore rfl (fun _ => rfl) fun _ => passes_answerTag (by decide) _

theorem passes_createTag (change : verb ≠ "GET") (f : TagForm) :
    Passes (Route.tags.serves verb) (createTag f) := by
  unfold createTag
  split
  · exact passes_pure (noConflict_ok nofun)
  exact passes_change (c := .createTag f.draft) rfl rfl (decide_eq_false change)
    .tagChangeNotLoaded (fun tag => answerTag 201 (some tag)) (fun _ => rfl) (fun _ => rfl)
    fun _ => passes_answerTag (by decide) _

theorem passes_patchTag (id : Int) (p : TagPatch) :
    Passes ((Route.tag segment).serves verb) (patchTag id p) := by
  unfold patchTag
  split
  · exact passes_pure (noConflict_ok nofun)
  split
  · exact passes_getTag id
  exact passes_change (c := .updateTag _ _) rfl rfl rfl .tagChangeNotLoaded (answerTag 200)
    (fun _ => rfl) (fun tag => by cases tag <;> rfl) fun _ => passes_answerTag (by decide) _

theorem passes_deleteTag (id : Int) :
    Passes ((Route.tag segment).serves verb) (deleteTag id) := by
  refine passes_change (c := .deleteTag _) rfl rfl rfl .tagChangeNotLoaded
    (fun deleted => pure (.ok (if deleted then .noContent else tagNotFound))) (fun _ => rfl)
    (fun deleted => by cases deleted <;> rfl) fun deleted => passes_pure (noConflict_ok ?_)
  split <;> exact nofun

/-! ### Messages -/

/-- A message is stored for the sender alone; what a winner calls for is done aside. -/
theorem passes_sendMessage (s : Submission) :
    Passes (Route.sendMessage.serves verb) (sendMessage s) := by
  have classified (m : Message) : Aside (Route.sendMessage.serves verb) (classify m) := by
    refine aside_of_staysWithTags (staysWithTags_classify m) fun c kind => ?_
    cases c <;> first | rfl | cases kind
  have delivered (deviceId : Datum) (outcome : Outcome) :
      Aside (Route.sendMessage.serves verb) (deliver deviceId outcome) := by
    refine (aside_ask rfl).bind fun _ => (aside_ask rfl).bind fun reached => ?_
    split
    · exact aside_ask rfl
    · exact aside_pure _
  unfold sendMessage ingest
  simp only [bind_assoc]
  refine Passes.after (aside_ask rfl) fun directory => Passes.after (aside_ask rfl) fun now =>
    Passes.after (classified _) fun classification => ?_
  cases classification with
  | error failure => exact passes_pure (noConflict_error failure)
  | ok outcome =>
    simp only [bind_assoc]
    refine passes_askStore rfl (fun _ => rfl) fun _ => Passes.after ?_ fun result => ?_
    · dsimp only
      split
      · exact (delivered _ outcome).bind fun _ => aside_pure _
      · exact aside_pure _
    · cases result with
      | error failure => exact passes_pure (noConflict_error failure)
      | ok outcome =>
        exact Passes.after (aside_ask rfl) fun _ =>
          passes_pure (noConflict_respondWith (by decide) _)

theorem passes_listMessages (s : Selection) :
    Passes (Route.messages.serves verb) (listMessages s) := by
  unfold listMessages
  split
  · refine passes_askStore rfl (fun _ => rfl) fun messages => passes_onKeys ?_
    exact Passes.after (aside_ask rfl) fun _ => passes_pure (noConflict_respondWith (by decide) _)
  · exact passes_pure (noConflict_error _)

theorem passes_countByType (type : String) :
    Passes (Route.countByType.serves verb) (countByType type) := by
  refine passes_askStore rfl (fun _ => rfl) fun counts => ?_
  exact Passes.after (aside_ask rfl) fun _ => passes_pure (noConflict_respondWith (by decide) _)

theorem passes_showMonthReport (days minimum : Int) :
    Passes (Route.monthReport.serves verb) (showMonthReport days minimum) := by
  have answered (result : Except Failure MonthReport) : Passes (Route.monthReport.serves verb)
      (pure (result.map fun r => .json 200 (reportView bodyTime r)) : Handler) := by
    cases result with
    | error failure => exact passes_pure (noConflict_error failure)
    | ok report => exact passes_pure (noConflict_ok (by exact nofun))
  unfold showMonthReport monthReport
  simp only [bind_assoc]
  refine Passes.after (aside_ask rfl) fun now => ?_
  cases periodStart _ _ with
  | error failure => exact answered (.error failure)
  | ok start =>
    simp only [bind_assoc]
    refine passes_askStore rfl (fun _ => rfl) fun volumes => ?_
    exact Passes.after (aside_ask rfl) fun _ => answered _

end

/-! ### Requests -/

/-- Along every route only the failure of the store call that the request is made for is passed
on. -/
theorem passes_perform (site : Site) (r : Request) (route : Route) :
    Passes (route.serves r.verb) (perform site r route) := by
  cases route with
  | health => exact Passes.after (aside_ask rfl) fun _ => passes_pure (noConflict_ok nofun)
  | storeHealth =>
    exact Passes.after (aside_ask rfl) fun _ => Passes.after (aside_ask rfl) fun _ =>
      Passes.after (aside_ask rfl) fun _ => Passes.after (aside_ask rfl) fun _ =>
        Passes.after (aside_ask rfl) fun _ => passes_pure (noConflict_ok nofun)
  | devices =>
    rw [perform]
    split
    · next get =>
      exact passes_askStore (decide_eq_true get) (fun _ => rfl)
        fun _ => passes_pure (noConflict_respondWith (by decide) _)
    · next change => exact passes_onBody fun _ => passes_onSound (passes_createDevice change)
  | device id =>
    rw [perform]
    split
    · exact passes_onSound passes_getDevice
    · split
      · exact passes_onSound passes_deleteDevice
      · exact passes_onBody fun _ => passes_onSound fun _ => passes_patchDevice _ _
  | tags =>
    rw [perform]
    split
    · next get =>
      refine passes_onSound fun _ => passes_askStore (decide_eq_true get) (fun _ => rfl) fun _ => ?_
      exact Passes.after (aside_ask rfl) fun _ =>
        passes_pure (noConflict_respondWith (by decide) _)
    · next change => exact passes_onBody fun _ => passes_onSound (passes_createTag change)
  | tag id =>
    rw [perform]
    split
    · exact passes_onSound passes_getTag
    · split
      · exact passes_onSound passes_deleteTag
      · exact passes_onBody fun _ => passes_onSound fun _ => passes_patchTag _ _
  | messages => exact passes_onSound passes_listMessages
  | sendMessage => exact passes_onBody fun _ => passes_onSound passes_sendMessage
  | countByType => exact passes_onSound passes_countByType
  | monthReport => exact passes_onSound fun _ => passes_showMonthReport _ _

end DeviceAlerts.Web
