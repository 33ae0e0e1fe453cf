import DeviceAlerts.Proofs.Web.Refusals

/-! Faults of the driver as they are seen from outside. A fault in the store call that a request is
made for is answered as unavailability, unless it is a key that is taken: then a device that should
be saved is in conflict with another, and anything else is an error that nobody foresaw. -/

namespace DeviceAlerts

open DeviceAlerts.Monitor DeviceAlerts.Mongo DeviceAlerts.Number DeviceAlerts.Time

/-- The status of the answer to a request whose store call meets a fault. -/
def Store.Call.statusOn (c : Store.Call) (kind : FaultKind) : Nat :=
  if kind = .duplicateKey then if c.savedAddress?.isSome then 409 else 500 else 503

namespace Web

variable {σ : Type} {answer : (c : monitor.Call) → σ → monitor.Answer c × σ}

/-! ### The status of an answer -/

/-- The status under which a result is answered. -/
def statusOf : Except Failure Response → Nat
  | .ok response => response.status
  | .error (.unavailable _) => 503
  | .error _ => 500

theorem statusOf_refusal (c : Store.Call) (kind : FaultKind) (reason : String) :
    statusOf (refusal c (c.failureOf kind reason)) = c.statusOn kind := by
  unfold refusal Store.Call.failureOf Store.Call.statusOn
  by_cases taken : kind = .duplicateKey
  · simp only [taken, if_true]
    cases c.savedAddress? <;> rfl
  · simp only [taken, if_false]
    split <;> rfl

/-- What is done with the result of what was done along a route. -/
def answerResult (r : Request) : Except Failure Response → Activity Response
  | .ok response => pure response
  | .error failure => answerFailure r (decodePath (String.ofList r.target.path)) failure

theorem run_answerResult (r : Request) (result : Except Failure Response) (s : σ) :
    ((answerResult r result).run answer s).1.status = statusOf result := by
  cases result with
  | ok response => rfl
  | error failure => cases failure <;> rfl

theorem asked_answerResult (r : Request) (result : Except Failure Response) (s : σ) :
    ∀ q ∈ (answerResult r result).asked answer s, ∀ c, q.1 ≠ .store c := by
  cases result with
  | ok response => exact nofun
  | error failure =>
    cases failure with
    | unavailable reason =>
      intro q hq c
      obtain rfl := List.mem_singleton.mp hq
      exact nofun
    | _ => exact nofun

section

variable {site : Site} {r : Request} {route : Route}

theorem respond_eq (known : r.route? = some route)
    (allowed : route.methods.contains r.verb = true) :
    respond site r = perform site r route >>= answerResult r := by
  unfold Request.route? at known
  simp only [respond, known, allowed, if_true]
  rfl

theorem status_respond (known : r.route? = some route)
    (allowed : route.methods.contains r.verb = true) (s : σ) :
    ((respond site r).run answer s).1.status =
      statusOf ((perform site r route).run answer s).1 := by
  rw [respond_eq known allowed]
  show Response.status (Program.run answer (Program.bind _ _) s).1 = _
  rw [Program.run_bind, run_answerResult]

/-- All store calls are asked for by what is done along the route. -/
theorem mem_asked_respond (known : r.route? = some route)
    (allowed : route.methods.contains r.verb = true) {s t : σ} {c : Store.Call} :
    (.store c, t) ∈ (respond site r).asked answer s ↔
      (.store c, t) ∈ (perform site r route).asked answer s := by
  rw [respond_eq known allowed, Program.asked_bind, List.mem_append]
  exact or_iff_left fun asked => asked_answerResult r _ _ _ asked c rfl

/-- What takes no route, or one that does not allow the method, is answered at once. -/
theorem respond_unrouted (h : ∀ route, r.route? = some route →
    route.methods.contains r.verb = false) :
    ∃ response : Response, respond site r = pure response ∧ response.status ≠ 409 := by
  have status (response : Response) (h : response.status ≠ 409) :
      (response.forMethod r.verb).status ≠ 409 := by
    unfold Response.forMethod
    split <;> exact h
  cases known : r.route? with
  | none =>
    unfold Request.route? at known
    simp only [respond, known]
    refine ⟨_, rfl, status _ ?_⟩
    split <;> decide
  | some route =>
    have refused := h route known
    unfold Request.route? at known
    simp only [respond, known, refused]
    exact ⟨_, rfl, status _ (by decide)⟩

end

/-! ### Store calls that fail -/

variable {wanted : Store.Call → Bool} {p : Handler} {s : σ} {c : Store.Call} {failure : Failure}

theorem mem_failures : (c, failure) ∈ failures wanted answer p s ↔
    ∃ t, (.store c, t) ∈ p.asked answer s ∧ wanted c = true ∧
      (answer (.store c) t).1 = .error failure := by
  constructor
  · intro h
    obtain ⟨⟨q, t⟩, asked, failed⟩ := List.mem_filterMap.mp h
    cases q with
    | store other =>
      simp only [failureAt] at failed
      split at failed
      · next here =>
        split at failed
        · next reason hreason =>
          cases failed
          exact ⟨t, asked, here, hreason⟩
        · cases failed
      · cases failed
    | _ => cases failed
  · rintro ⟨t, asked, here, failed⟩
    refine List.mem_filterMap.mpr ⟨_, asked, ?_⟩
    simp only [failureAt, here, if_true, failed]

theorem Replies.of_mem {met : List (Store.Call × Failure)} {result : Except Failure Response}
    (h : Replies met result) (here : (c, failure) ∈ met) : result = refusal c failure := by
  cases h with
  | other _ => cases here
  | refused c failure =>
    obtain ⟨⟩ := List.mem_singleton.mp here
    rfl

/-- A conflict is the refusal of a device whose address the store says is taken. -/
theorem Replies.exists_addressTaken {met : List (Store.Call × Failure)}
    {result : Except Failure Response} (h : Replies met result) (conflict : statusOf result = 409) :
    ∃ c address, (c, .addressTaken address) ∈ met ∧ c.savedAddress?.isSome = true := by
  cases h with
  | other fine =>
    cases result with
    | ok response => exact absurd conflict (fine response rfl)
    | error failure => cases failure <;> cases conflict
  | refused c failure =>
    unfold refusal at conflict
    split at conflict
    · next saves =>
      cases failure with
      | addressTaken address => exact ⟨c, address, List.mem_singleton.mpr rfl, saves⟩
      | _ => cases conflict
    · cases failure <;> cases conflict

/-! ### Faults -/

/-- Of the faults that the driver reports every store call makes the same: a call that saves a
device takes a key that is refused, be it that of the counter, for an address that is taken; any
other call passes it on as it is; all else is unavailability. A request whose store call meets a
fault is answered accordingly, and a conflict is only answered when a call that saves a device has
been refused a key. -/
theorem faults_tell (l : Link σ) :
    (∀ c s, (∀ request kind reason, (request, .driver kind reason) ∈ l.faults c s →
        (l.answer c s).1 = .error (c.failureOf kind reason)) ∧
      (∀ failure, (l.answer c s).1 = .error failure → failure.tellsFault = true →
        ∃ request kind reason, (request, .driver kind reason) ∈ l.faults c s ∧
          failure = c.failureOf kind reason)) ∧
    ∀ answer : (c : monitor.Call) → σ → monitor.Answer c × σ,
      (∀ c s, answer (.store c) s = l.answer c s) → ∀ (site : Site) (r : Request) (s : σ),
        (∀ route, r.route? = some route →
          ∀ c t, (.store c, t) ∈ (respond site r).asked answer s → route.serves r.verb c = true →
            ∀ request kind reason, (request, .driver kind reason) ∈ l.faults c t →
              ((respond site r).run answer s).1.status = c.statusOn kind) ∧
        (((respond site r).run answer s).1.status = 409 →
          ∃ c t, (.store c, t) ∈ (respond site r).asked answer s ∧
            c.savedAddress?.isSome = true ∧
            ∃ request reason, (request, .driver .duplicateKey reason) ∈ l.faults c t) := by
  refine ⟨fun c s => ⟨fun _ _ _ => Link.answer_of_mem_faults, fun _ failed tells =>
    Link.exists_fault_of_answer tells failed⟩, fun answer backed site r s => ?_⟩
  by_cases routed : ∃ route, r.route? = some route ∧ route.methods.contains r.verb = true
  · obtain ⟨route, known, allowed⟩ := routed
    have replies := passes_perform site r route σ answer s
    rw [status_respond known allowed]
    constructor
    · intro other same c t asked serves request kind reason met
      obtain rfl : route = other := Option.some.inj (known.symm.trans same)
      have failed : (answer (.store c) t).1 = .error (c.failureOf kind reason) := by
        rw [backed]
        exact Link.answer_of_mem_faults met
      have here := mem_failures.mpr
        ⟨t, (mem_asked_respond known allowed).mp asked, serves, failed⟩
      rw [replies.of_mem here, statusOf_refusal]
    · intro conflict
      obtain ⟨c, address, here, saves⟩ := replies.exists_addressTaken conflict
      obtain ⟨t, asked, -, failed⟩ := mem_failures.mp here
      rw [backed] at failed
      obtain ⟨request, kind, reason, met, tells⟩ := Link.exists_fault_of_answer rfl failed
      refine ⟨c, t, (mem_asked_respond known allowed).mpr asked, saves, request, reason, ?_⟩
      by_cases taken : kind = .duplicateKey
      · exact taken ▸ met
      · rw [Store.Call.failureOf, if_neg taken] at tells
        cases tells
  · have unrouted (route) (known : r.route? = some route) :
        route.methods.contains r.verb = false :=
      Bool.eq_false_iff.mpr fun allowed => routed ⟨route, known, allowed⟩
    obtain ⟨response, hresponse, status⟩ : ∃ response : Response,
        respond site r = pure response ∧ response.status ≠ 409 := respond_unrouted unrouted
    rw [hresponse]
    refine ⟨fun route _ c t asked => ?_, fun conflict => absurd conflict status⟩
    cases asked

/-! ### Drivers that fail on cue -/

def scripted : Link Script := ⟨Script.answer, "", fun _ => none⟩

/-- The store is what the script says, and nothing has been loaded of it. -/
def unloaded : (c : monitor.Call) → Script → monitor.Answer c × Script
  | .store c, s => scripted.answer c s
  | .rules call, s => (((Cache.empty Book.empty).perform call).1, s)
  | .devices call, s => (((Cache.empty Directory.empty).perform call).1, s)
  | .now, s => (s.clock, s)
  | .tell _, s => ((), s)
  | .alert _ _, s => (true, s)
  | .probe _, s => (.unreachable, s)

/-- The connection is made, and the first request over it fails. -/
def failing (kind : FaultKind) : Script :=
  .start [.empty, { Reply.empty with fault := some (.driver kind "late") }] ⟨0, none⟩

def newTag : Request := asking "POST" "/api/tags" (tagBody ".")

def newDevice : Request := asking "POST" "/api/devices" (.value (.record
  [("name", .text "boiler"), ("deviceType", .text "heater"), ("address", .text "10.0.0.7")]))

/-- Whether a question asks for a store call that a request is made for and that meets a fault. -/
def meets (route : Route) (verb : String) (kind : FaultKind) (status : Nat) :
    monitor.Call × Script → Bool
  | (.store c, s) => route.serves verb c && c.statusOn kind = status &&
    (scripted.faults c s).any fun met => met.2 = .driver kind "late"
  | _ => false

theorem faults_tell_failing :
    let site : Site := ⟨"mongo", some "mongodb://db"⟩
    let answered (r : Request) (kind : FaultKind) : Nat :=
      Response.status ((respond site r).run unloaded (failing kind)).1
    answered newDevice .reconnect = 503 ∧ answered newTag .networkTimeout = 503 ∧
    answered newTag .duplicateKey = 500 ∧ answered newDevice .duplicateKey = 409 := by
  intro site answered
  obtain ⟨-, requests⟩ := faults_tell scripted
  have status {r : Request} {route : Route} (known : r.route? = some route) {kind : FaultKind}
      {n : Nat} (met : ((respond site r).asked unloaded (failing kind)).any
        (meets route r.verb kind n) = true) : answered r kind = n := by
    obtain ⟨⟨q, t⟩, asked, met⟩ := List.any_eq_true.mp met
    cases q with
    | store c =>
      simp only [meets, Bool.and_eq_true, decide_eq_true_eq, List.any_eq_true] at met
      obtain ⟨⟨serves, rfl⟩, ⟨request, fault⟩, here, rfl⟩ := met
      exact (requests unloaded (fun _ _ => rfl) site r _).1 route known c t asked serves request
        kind "late" here
    | _ => cases met
  have device : newDevice.route? = some .devices := by decide +kernel
  have tag : newTag.route? = some .tags := by decide +kernel
  exact ⟨status device (by decide +kernel), status tag (by decide +kernel),
    status tag (by decide +kernel), status device (by decide +kernel)⟩

/-- The number of a new record is refused. A tag then fails with the refusal as it is, and a device
is told that its address is taken though nobody has asked whether it is. -/
theorem refused_number_told_as_conflict :
    let refused := failing .duplicateKey
    let hot : TagDraft := ⟨.int 1, .text "t", ⟨.text ".", .text ">", .text "80", .int 0⟩,
      .text "Hot", .text "high"⟩
    let pump : DeviceDraft := ⟨.text "pump", .text "switch", .text "10.0.0.1", .list []⟩
    (scripted.faults (.createTag hot) refused =
        [(.findAndUpdate .counters (.counter "tags") .advance, .driver .duplicateKey "late")] ∧
      (scripted.answer (.createTag hot) refused).1 = .error (.duplicateKey "late")) ∧
    (scripted.faults (.createDevice pump) refused =
        [(.findAndUpdate .counters (.counter "devices") .advance, .driver .duplicateKey "late")] ∧
      (scripted.answer (.createDevice pump) refused).1 =
        .error (.addressTaken (.text "10.0.0.1"))) ∧
    Response.status ((respond ⟨"mongo", none⟩ newTag).run unloaded refused).1 = 500 ∧
    Response.status ((respond ⟨"mongo", none⟩ newDevice).run unloaded refused).1 = 409 :=
  ⟨⟨rfl, rfl⟩, ⟨rfl, rfl⟩, by decide +kernel, by decide +kernel⟩

end Web

end DeviceAlerts
