import DeviceAlerts.Monitor.Sweep
import DeviceAlerts.Proofs.Monitor.Delivery

/-! Sweeps in which devices fail. Every known device is probed once, whatever the probes of others
come to and whatever becomes of the messages that report them. A message that cannot be stored is
lost, but its device is counted, and the sweep goes on with what the attempt has left. -/

namespace DeviceAlerts.Monitor

/-! ### Probes -/

/-- A device that was probed, with what came of it. -/
def Exchange.probe? : Exchange → Option (String × Probe)
  | ⟨.probe address, (result : Probe)⟩ => some (address, result)
  | _ => none

theorem Exchange.probe?_of_staysWithTags (e : Exchange) (h : e.call.staysWithTags = true) :
    e.probe? = none := by
  unfold probe?
  split
  · cases h
  · rfl

/-- The problems that probes bring to light, with the addresses at which they stand. -/
def problems (probes : List (String × Probe)) : List (String × Problem) :=
  probes.filterMap fun r => r.2.problem?.map (r.1, ·)

/-- The messages that report problems. No message comes from an empty address. -/
def reports (probes : List (String × Probe)) : List Submission :=
  ((problems probes).filter fun r => r.1 ≠ "").map fun r => r.2.submission r.1

theorem problems_append (probes others : List (String × Probe)) :
    problems (probes ++ others) = problems probes ++ problems others :=
  List.filterMap_append

theorem reports_append (probes others : List (String × Probe)) :
    reports (probes ++ others) = reports probes ++ reports others := by
  rw [reports, problems_append, List.filter_append, List.map_append]
  rfl

/-- A device has a problem when it can be asked and does not answer 200. -/
theorem length_problems (probes : List (String × Probe)) : (problems probes).length =
    probes.countP fun r => r.2 ≠ .status 200 ∧ r.2 ≠ .broke := by
  induction probes with
  | nil => rfl
  | cons r rest ih =>
    have first : r.2.problem?.isSome = decide (r.2 ≠ .status 200 ∧ r.2 ≠ .broke) := by
      cases hprobe : r.2 with
      | status code => by_cases ok : code = 200 <;> simp [Probe.problem?, ok]
      | unreachable => rfl
      | broke => rfl
    rw [problems, List.filterMap_cons, List.countP_cons, ← first, ← ih]
    cases r.2.problem? <;> rfl

namespace Setting

variable {α β : Type} (s : Setting)

/-- The devices that are probed in a run. -/
def probes (activity : Activity α) : List (String × Probe) :=
  (s.exchanges activity).filterMap Exchange.probe?

theorem probes_bind (first : Activity α) (rest : α → Activity β) : s.probes (first >>= rest) =
    s.probes first ++ (s.run first).2.probes (rest (s.run first).1) :=
  s.filterMap_exchanges_bind _ first rest

theorem probes_ask (c : Call) (next : c.Answer → Activity α) : s.probes (.ask c next) =
    (Exchange.probe? ⟨c, (answer c s).1⟩).toList ++
      (answer c s).2.probes (next (answer c s).1) :=
  s.filterMap_exchanges_ask _ c next

theorem probes_deliver (deviceId : Datum) (o : Outcome) : s.probes (deliver deviceId o) = [] := by
  unfold probes
  rw [exchanges_deliver]
  cases (s.chances 1).delivered <;> rfl

theorem probes_passOn (deviceId : Datum) (o : Outcome) : s.probes (passOn deviceId o) = [] := by
  unfold passOn
  rw [probes_bind]
  cases o.notify with
  | false => rfl
  | true => exact congrArg (· ++ []) (s.probes_deliver deviceId o)

theorem probes_conclude (deviceId : Datum) (verdict : Except Failure Outcome) :
    s.probes (conclude deviceId verdict) = [] := by
  cases verdict with
  | error failure => rfl
  | ok o =>
    unfold conclude
    rw [probes_ask]
    cases (answer (.store (.insertMessage o.message)) s).1 with
    | error failure => rfl
    | ok _ => exact probes_passOn _ deviceId o

/-- Nothing is probed while a message is taken in. -/
theorem probes_ingest (p : Submission) : s.probes (ingest p) = [] := by
  unfold probes
  rw [s.filterMap_exchanges_ingest p Exchange.probe?_of_staysWithTags]
  exact probes_conclude _ _ _

/-- The chances that are left to a run are the later ones of the row. -/
theorem exists_run_chances (activity : Activity α) :
    ∃ k, (s.run activity).2.chances = fun n => s.chances (n + k) := by
  induction activity generalizing s with
  | done a => exact ⟨0, rfl⟩
  | ask c next ih =>
    obtain ⟨k, hk⟩ := ih _ (answer c s).2
    exact ⟨k + 1, hk⟩

end Setting

/-! ### Attempts -/

/-- The message that was stored, if it could be. -/
def Reception.stored? (e : Reception) : Option Message := e.answer.toOption.map (·.message)

/-- A message that could not be stored. What has become of the rules stays. -/
structure Setting.Refused (s : Setting) (p : Submission) : Prop where
  answer : ∃ failure, (s.run (ingest p)).1 = .error failure
  messages : (s.run (ingest p)).2.site.store.messages = s.site.store.messages
  directory : (s.run (ingest p)).2.site.directory = s.site.directory
  within : (s.run (ingest p)).2.site.rules.published ≤ (s.run (ingest p)).2.site.rules.issued

theorem Setting.received_or_refused {s : Setting} (receptive : s.site.Receptive) (p : Submission) :
    (∃ o, s.Received p o) ∨ s.Refused p := by
  cases hfault : ((s.judged p).2.chances 0).fault with
  | none => exact .inl (received_of_stored receptive hfault)
  | some failure =>
    obtain ⟨⟨transition, hverdict⟩, hjudged⟩ := judged_spec (receptive.keyed p) receptive.within
    obtain ⟨hdirectory, hmessages⟩ := hjudged.apart
    have hrun := s.run_ingest p
    rw [hverdict, ((s.judged p).2.conclude_unstored hfault _ _).1] at hrun
    refine .inr ⟨⟨failure, congrArg Prod.fst hrun⟩, ?_, ?_, ?_⟩ <;> rw [hrun]
    · exact hmessages
    · exact hdirectory
    · exact hjudged.within receptive.within

theorem Setting.Refused.receptive {s : Setting} {p : Submission} (h : s.Refused p)
    (before : s.site.Receptive) : (s.run (ingest p)).2.site.Receptive :=
  ⟨h.within, h.directory ▸ before.numbers⟩

/-- One more message is taken in, or it is refused. -/
theorem attempt_spec {s : Site} (receptive : s.Receptive) (i : Intake) :
    (takeIn s i).1.Receptive ∧ (takeIn s i).1.directory = s.directory ∧
      (takeIn s i).1.store.messages =
        s.store.messages ++ (takeIn s i).2.stored?.toList ∧
      ∀ o, (takeIn s i).2.answer = .ok o → Carries s i.submission o := by
  have attempt : (∃ o, Setting.Received ⟨s, i.chances⟩ i.submission o) ∨
      Setting.Refused ⟨s, i.chances⟩ i.submission :=
    Setting.received_or_refused receptive i.submission
  rcases attempt with ⟨o, received⟩ | refused
  · have answer : (takeIn s i).2.answer = .ok o := received.answer
    refine ⟨received.receptive receptive, received.directory, ?_, fun other same => ?_⟩
    · rw [Reception.stored?, answer]
      exact received.messages
    · cases answer.symm.trans same
      exact received.carries
  · obtain ⟨failure, refusal⟩ := refused.answer
    have answer : (takeIn s i).2.answer = .error failure := refusal
    refine ⟨refused.receptive receptive, refused.directory, ?_, fun other same => ?_⟩
    · rw [Reception.stored?, answer]
      exact refused.messages.trans (List.append_nil _).symm
    · cases answer.symm.trans same

/-- Messages are taken in one after the other. Those that can be stored are stored in their order,
each with the severity that the rules give it by then. -/
theorem attempted_in_order {s : Site} (receptive : s.Receptive) (intakes : List Intake) :
    (Course.after takeIn s intakes).store.messages =
        s.store.messages ++ (Course.events takeIn s intakes).filterMap Reception.stored? ∧
      ∀ e ∈ Course.events takeIn s intakes, e.site.directory = s.directory ∧
        ∀ o, e.answer = .ok o → Carries e.site e.intake.submission o := by
  induction intakes generalizing s with
  | nil => exact ⟨(List.append_nil _).symm, List.forall_mem_nil _⟩
  | cons i rest ih =>
    obtain ⟨after, directory, messages, carries⟩ := attempt_spec receptive i
    obtain ⟨others, later⟩ := ih after
    have stored : (Course.events takeIn s (i :: rest)).filterMap Reception.stored? =
        (takeIn s i).2.stored?.toList ++
          (Course.events takeIn (takeIn s i).1 rest).filterMap Reception.stored? := by
      rw [Course.events_cons, List.filterMap_cons]
      cases (takeIn s i).2.stored? <;> rfl
    refine ⟨?_, List.forall_mem_cons.mpr ⟨⟨rfl, carries⟩, fun e he => ?_⟩⟩
    · rw [Course.after_cons, others, messages, stored, List.append_assoc]
    · obtain ⟨same, carried⟩ := later e he
      exact ⟨same.trans directory, carried⟩

/-! ### The course of a sweep -/

/-- All that a run changes at its site is that submissions are taken in, one after the other. -/
def Setting.TakesAll {α : Type} (s : Setting) (activity : Activity α)
    (submissions : List Submission) : Prop :=
  ∃ intakes : List Intake, intakes.map (·.submission) = submissions ∧
    (∀ i ∈ intakes, ∃ k, i.chances = fun n => s.chances (n + k)) ∧
    (s.run activity).2.site = Course.after takeIn s.site intakes

namespace Setting

variable {α β : Type} {s : Setting}

theorem takesAll_nil {activity : Activity α} (still : (s.run activity).2.site = s.site) :
    s.TakesAll activity [] :=
  ⟨[], rfl, List.forall_mem_nil _, still⟩

theorem takesAll_ingest (p : Submission) : s.TakesAll (ingest p) [p] :=
  ⟨[⟨p, s.chances⟩], rfl, List.forall_mem_singleton.mpr ⟨0, rfl⟩, rfl⟩

theorem TakesAll.bind {first : Activity α} {rest : α → Activity β} {before later : List Submission}
    (h : s.TakesAll first before)
    (h' : (s.run first).2.TakesAll (rest (s.run first).1) later) :
    s.TakesAll (first >>= rest) (before ++ later) := by
  obtain ⟨intakes, submissions, chances, site⟩ := h
  obtain ⟨others, submissions', chances', site'⟩ := h'
  obtain ⟨k, hk⟩ := s.exists_run_chances first
  refine ⟨intakes ++ others, ?_, List.forall_mem_append.mpr ⟨chances, fun i hi => ?_⟩, ?_⟩
  · rw [List.map_append, submissions, submissions']
  · obtain ⟨l, hl⟩ := chances' i hi
    rw [hk] at hl
    exact ⟨l + k, by simpa only [Nat.add_assoc] using hl⟩
  · rw [run_bind, Course.after_append, ← site, site']

theorem TakesAll.ask {c : Call} {next : c.Answer → Activity α} {submissions : List Submission}
    (still : (answer c s).2.site = s.site)
    (h : (answer c s).2.TakesAll (next (answer c s).1) submissions) :
    s.TakesAll (.ask c next) submissions := by
  obtain ⟨intakes, taken, chances, site⟩ := h
  refine ⟨intakes, taken, fun i hi => ?_, still ▸ site⟩
  obtain ⟨k, hk⟩ := chances i hi
  exact ⟨k + 1, hk⟩

/-- A problem is reported unless its address is empty; it does not matter what comes of it. -/
theorem takesAll_report (place : String) (problem : Problem) :
    s.TakesAll (report (.text place) problem)
      (if place = "" then [] else [problem.submission place]) := by
  unfold report
  by_cases empty : place = ""
  · simp only [if_pos empty]
    exact takesAll_nil rfl
  · simp only [if_neg empty]
    change s.TakesAll _ ([problem.submission place] ++ [])
    refine (takesAll_ingest (problem.submission place)).bind (takesAll_nil ?_)
    cases (s.run (ingest (problem.submission place))).1 <;> rfl

theorem probes_report (place : String) (problem : Problem) :
    s.probes (report (.text place) problem) = [] := by
  unfold report
  by_cases empty : place = ""
  · simp only [if_pos empty]
    rfl
  · simp only [if_neg empty]
    rw [probes_bind, probes_ingest]
    cases (s.run (ingest (problem.submission place))).1 <;> rfl

end Setting

/-- What is done about the device at an address once it has been probed. -/
def settle (place : String) (probe : Probe) : Activity Bool := do
  if probe = .broke then tellOne (.deviceNotChecked (.text place))
  match probe.problem? with
  | none => return false
  | some problem =>
    report (.text place) problem
    return true

theorem check_eq (place : String) :
    check (.text place) = .ask (.probe place) (settle place) := rfl

theorem reports_singleton (place : String) (probe : Probe) : reports [(place, probe)] =
    probe.problem?.elim [] fun p => if place = "" then [] else [p.submission place] := by
  unfold reports problems
  rw [List.filterMap_cons]
  cases probe.problem? with
  | none => rfl
  | some p => by_cases empty : place = "" <;> simp [empty]

namespace Setting

variable {s : Setting}

theorem settle_spec (place : String) (probe : Probe) :
    (s.run (settle place probe)).1 = probe.problem?.isSome ∧ s.probes (settle place probe) = [] ∧
      s.TakesAll (settle place probe) (reports [(place, probe)]) := by
  rw [reports_singleton]
  unfold settle
  by_cases broke : probe = .broke
  · rw [broke]
    exact ⟨rfl, rfl, takesAll_nil rfl⟩
  · simp only [if_neg broke]
    cases probe.problem? with
    | none => exact ⟨rfl, rfl, takesAll_nil rfl⟩
    | some problem =>
      have reported : s.TakesAll (report (.text place) problem >>= fun _ => pure true)
          ((if place = "" then [] else [problem.submission place]) ++ []) :=
        (takesAll_report place problem).bind (takesAll_nil rfl)
      rw [List.append_nil] at reported
      refine ⟨congrArg Prod.fst (s.run_bind _ _), ?_, reported⟩
      refine (s.probes_bind _ _).trans ?_
      rw [probes_report]
      rfl

/-- One device is probed; what is wrong with it is counted and reported. -/
theorem check_spec (place : String) : ∃ probe,
    s.probes (check (.text place)) = [(place, probe)] ∧
      (s.run (check (.text place))).1 = probe.problem?.isSome ∧
      s.TakesAll (check (.text place)) (reports [(place, probe)]) := by
  obtain ⟨count, probes, taken⟩ := (s.later s.site).settle_spec place (s.chances 0).probe
  refine ⟨(s.chances 0).probe, ?_, count, TakesAll.ask rfl taken⟩
  rw [check_eq, probes_ask]
  exact congrArg ((place, (s.chances 0).probe) :: ·) probes

/-- Every device is probed, those with a problem are counted, and their problems are reported. -/
theorem checkAll_spec (places : List String) :
    (s.probes (checkAll (places.map .text))).map (·.1) = places ∧
      (s.run (checkAll (places.map .text))).1 =
        (problems (s.probes (checkAll (places.map .text)))).length ∧
      s.TakesAll (checkAll (places.map .text))
        (reports (s.probes (checkAll (places.map .text)))) := by
  -- on the devices, in any setting, since the check of each one leaves another
  induction places generalizing s with
  | nil => exact ⟨rfl, rfl, takesAll_nil rfl⟩
  | cons place rest ih =>
    obtain ⟨probe, probes, count, taken⟩ := s.check_spec place
    obtain ⟨others, total, later⟩ := @ih (s.run (check (.text place))).2
    have split : checkAll ((place :: rest).map .text) = check (.text place) >>= fun unhealthy =>
        checkAll (rest.map .text) >>= fun others =>
          pure ((if unhealthy then 1 else 0) + others) := rfl
    have all : s.probes (checkAll ((place :: rest).map .text)) =
        [(place, probe)] ++ (s.run (check (.text place))).2.probes (checkAll (rest.map .text)) := by
      rw [split, probes_bind, probes_bind, probes]
      exact congrArg ([(place, probe)] ++ ·) (List.append_nil _)
    rw [all, problems_append, reports_append, List.map_append, others, List.length_append, ← total,
      split]
    refine ⟨rfl, ?_, ?_⟩
    · rw [run_bind, run_bind, count]
      show (if probe.problem?.isSome then 1 else 0) + _ = _
      rw [problems, List.filterMap_cons]
      cases probe.problem? <;> rfl
    · refine taken.bind ?_
      rw [← List.append_nil (reports _)]
      exact later.bind (takesAll_nil rfl)

end Setting

/-! ### Sweeps -/

/-- A sweep probes every address that the directory has when it begins, once and in their order,
and counts those that answer anything but 200 or cannot be reached, whatever becomes of the messages
about them. The only other thing it does is to take in these messages in their order; those that can
be stored are stored, each with the severity that the rules give it once the earlier messages have
been dealt with. -/
theorem sweep_reports_each {s : Setting} (receptive : s.site.Receptive) {places : List String}
    (known : s.site.directory.snapshot.addresses = places.map .text) (apart : places.Nodup) :
    ((s.probes sweep).map (·.1) = places ∧ ((s.probes sweep).map (·.1)).Nodup) ∧
      (s.run sweep).1 = (s.probes sweep).countP (fun r => r.2 ≠ .status 200 ∧ r.2 ≠ .broke) ∧
      ∃ intakes : List Intake, intakes.map (·.submission) = reports (s.probes sweep) ∧
        (∀ i ∈ intakes, ∃ k, i.chances = fun n => s.chances (n + k)) ∧
        (s.run sweep).2.site = Course.after takeIn s.site intakes ∧
        (s.run sweep).2.site.store.messages = s.site.store.messages ++
          (Course.events takeIn s.site intakes).filterMap Reception.stored? ∧
        ∀ e ∈ Course.events takeIn s.site intakes, e.site.directory = s.site.directory ∧
          ∀ o, e.answer = .ok o → Carries e.site e.intake.submission o := by
  have run : s.run sweep = (s.later s.site).run (checkAll (places.map .text)) := by
    rw [← known]
    rfl
  have probes : s.probes sweep = (s.later s.site).probes (checkAll (places.map .text)) := by
    rw [← known]
    rfl
  obtain ⟨probed, count, taken⟩ := (s.later s.site).checkAll_spec places
  obtain ⟨intakes, submissions, chances, site⟩ := taken
  obtain ⟨messages, receptions⟩ := attempted_in_order receptive intakes
  have left : (s.run sweep).2.site = Course.after takeIn s.site intakes := by
    rw [run, site]
    rfl
  rw [probes, probed]
  refine ⟨⟨rfl, apart⟩, ?_, intakes, submissions, fun i hi => ?_, left, ?_, receptions⟩
  · rw [run, count, length_problems]
  · obtain ⟨k, hk⟩ := chances i hi
    exact ⟨k + 1, hk⟩
  · rw [left, messages]

def pumpAt (id : Int) (address : String) : Device :=
  ⟨.int id, .text "pump", .text "pump", .text address, [], .null, .null⟩

/-- Four devices, of which the first is well. The message about the second cannot be stored, the
third cannot be reached, and the probe of the last one breaks. -/
def unwell : Setting where
  site := { Site.fresh .empty with
    directory := ⟨Directory.table [pumpAt 1 "10.0.0.1", pumpAt 2 "10.0.0.2", pumpAt 3 "10.0.0.3",
      pumpAt 4 "10.0.0.4"] ⟨0, none⟩, 1, 1⟩ }
  chances n := { Chance.calm ⟨0, none⟩ with
    fault := if n = 7 then some (.unavailable "insert_message") else none
    probe := if n = 2 then .status 503 else if n = 9 then .unreachable
      else if n = 15 then .broke else .status 200 }

theorem sweep_reports_each_unwell :
    (unwell.probes sweep).map (·.1) = ["10.0.0.1", "10.0.0.2", "10.0.0.3", "10.0.0.4"] ∧
      (unwell.run sweep).1 = 2 ∧
      (unwell.run sweep).2.site.store.messages.map (·.text) =
        [.text "unable to connect to device 10.0.0.3"] := by
  have receptive : unwell.site.Receptive := ⟨by decide, by
    have values : unwell.site.directory.snapshot.byAddress.values = [pumpAt 1 "10.0.0.1",
        pumpAt 2 "10.0.0.2", pumpAt 3 "10.0.0.3", pumpAt 4 "10.0.0.4"] := by rfl
    rw [values]
    simp [pumpAt]⟩
  obtain ⟨⟨probed, -⟩, count, -⟩ := @sweep_reports_each unwell receptive
    ["10.0.0.1", "10.0.0.2", "10.0.0.3", "10.0.0.4"] rfl (by decide)
  exact ⟨probed, count.trans (by decide +kernel), by decide +kernel⟩

end DeviceAlerts.Monitor
