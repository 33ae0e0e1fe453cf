import DeviceAlerts.Monitor.Intake
import DeviceAlerts.Proofs.Monitor.Exchange
import DeviceAlerts.Proofs.Monitor.Freshness

/-! Messages that are sent again because they could not be stored. The winner has been handled by
then, so the attempt that failed may have changed the tags. A recovery tag that it has added comes
last and takes no message from the tag that won. A recovery tag that it has deleted is gone, and
only then the second attempt may come to another verdict than the first. -/

namespace DeviceAlerts.Monitor

open DeviceAlerts.Time

/-! ### What a verdict asks for -/

/-- Whether a question is no alert and no probe, and asks the store for nothing but tags. -/
def Call.staysWithTags : Call → Bool
  | store c => c.kind = .tags
  | alert _ _ | probe _ => false
  | _ => true

def tagsOnly : Protocol monitor where
  State := Unit
  may _ c := c.staysWithTags = true
  reckons _ _ _ := True
  after _ _ _ := ()

/-- No alert is sent, nothing is probed, and the store is asked for nothing but tags. -/
def StaysWithTags {α : Type} (activity : Activity α) : Prop :=
  Program.Keeps tagsOnly (fun _ _ => True) activity ()

section

variable {α β : Type}

theorem staysWithTags_pure (a : α) : StaysWithTags (pure a : Activity α) := trivial

theorem staysWithTags_ask {c : Call} (may : c.staysWithTags = true) {next : c.Answer → Activity α}
    (rest : ∀ b, StaysWithTags (next b)) : StaysWithTags (.ask c next) :=
  ⟨may, fun b _ => rest b⟩

theorem StaysWithTags.bind {first : Activity α} {rest : α → Activity β} (h : StaysWithTags first)
    (later : ∀ a, StaysWithTags (rest a)) : StaysWithTags (first >>= rest) :=
  Program.keeps_bind.mpr (Program.Keeps.mono h fun _ a _ => later a)

theorem staysWithTags_call {c : Call} (may : c.staysWithTags = true) : StaysWithTags (ask c) :=
  staysWithTags_ask may fun b => staysWithTags_pure b

theorem staysWithTags_publishRules (ticket : Int) (tags : List Tag) :
    StaysWithTags (publishRules ticket tags) := by
  refine staysWithTags_ask rfl fun _ => ?_
  cases (Compilation.ofTags tags).rules with
  | error limit => exact staysWithTags_pure _
  | ok rules =>
    refine staysWithTags_ask rfl fun (now : Moment) => ?_
    cases Book.ofTags tags now with
    | error failure => exact staysWithTags_pure _
    | ok book => exact staysWithTags_ask rfl fun _ => staysWithTags_pure _

theorem staysWithTags_refreshRules : StaysWithTags refreshRules := by
  rw [refreshRules_eq]
  refine staysWithTags_ask rfl fun (ticket : Int) => staysWithTags_ask rfl fun answer => ?_
  cases answer with
  | error failure => exact staysWithTags_pure _
  | ok tags => exact staysWithTags_publishRules ticket tags

theorem staysWithTags_reloadRules (otherwise : Notice) : StaysWithTags (reloadRules otherwise) := by
  refine staysWithTags_refreshRules.bind fun answer => ?_
  cases answer with
  | error failure => exact staysWithTags_call rfl
  | ok book => exact staysWithTags_pure _

theorem staysWithTags_clear (r : Rule) : StaysWithTags (clear r) := by
  refine (staysWithTags_call rfl).bind fun answer => ?_
  cases answer with
  | error failure => exact (staysWithTags_call rfl).bind fun _ => staysWithTags_pure _
  | ok found =>
    have hreload : StaysWithTags (reloadRules .transitionNotLoaded >>= fun _ =>
        pure (if found then Transition.deleted else .alreadyCleared)) :=
      (staysWithTags_reloadRules _).bind fun _ => staysWithTags_pure _
    cases found with
    | true => exact hreload
    | false => exact (staysWithTags_call rfl).bind fun _ => hreload

theorem staysWithTags_trip (r : Rule) (draft : TagDraft) : StaysWithTags (trip r draft) := by
  refine (staysWithTags_call rfl).bind fun answer => ?_
  cases answer with
  | error failure => exact (staysWithTags_call rfl).bind fun _ => staysWithTags_pure _
  | ok tag => exact (staysWithTags_reloadRules _).bind fun _ => staysWithTags_pure _

theorem staysWithTags_handle (r : Rule) : StaysWithTags (handle r) := by
  refine (staysWithTags_call rfl).bind fun book => ?_
  cases plan r book with
  | ignore | settled => exact staysWithTags_pure _
  | delete id => exact (staysWithTags_clear r).bind fun _ => staysWithTags_pure _
  | create draft => exact (staysWithTags_trip r draft).bind fun _ => staysWithTags_pure _

theorem staysWithTags_classify (m : Message) : StaysWithTags (classify m) := by
  refine (staysWithTags_call rfl).bind fun book => ?_
  cases m.deviceId.asKey with
  | error fault => exact staysWithTags_pure _
  | ok deviceId =>
    refine (staysWithTags_call rfl).bind fun _ => ?_
    cases (scan (body m) (book.rulesOf deviceId)).2 with
    | none => exact staysWithTags_pure _
    | some r =>
      dsimp only
      split
      · exact (staysWithTags_handle r).bind fun _ => staysWithTags_pure _
      · exact staysWithTags_pure _

theorem StaysWithTags.of_mem {activity : Activity α} (h : StaysWithTags activity)
    {s : Setting} {e : Exchange} (he : e ∈ s.exchanges activity) : e.call.staysWithTags = true := by
  induction activity generalizing s with
  | done a => cases he
  | ask c next ih =>
    rcases List.mem_cons.mp he with rfl | he
    · exact h.1
    · exact ih _ (h.2 _ trivial) he

theorem StaysWithTags.kind_of_failure {activity : Activity α} (h : StaysWithTags activity)
    {s : Setting} {c : Store.Call} (hc : c ∈ s.failures activity) : c.kind = .tags := by
  obtain ⟨e, he, hfailed⟩ := List.mem_filterMap.mp hc
  have hcall := h.of_mem he
  unfold Exchange.failed? at hfailed
  split at hfailed
  · cases hfailed
    exact of_decide_eq_true hcall
  · cases hfailed

/-- Nothing is read off a run of such questions when nothing is read off any of them. -/
theorem StaysWithTags.filterMap_exchanges {γ : Type} {activity : Activity α}
    (h : StaysWithTags activity) {f : Exchange → Option γ}
    (nothing : ∀ e : Exchange, e.call.staysWithTags = true → f e = none) (s : Setting) :
    (s.exchanges activity).filterMap f = [] :=
  List.filterMap_eq_nil_iff.mpr fun e he => nothing e (h.of_mem he)

theorem Exchange.alert?_of_staysWithTags (e : Exchange) (h : e.call.staysWithTags = true) :
    e.alert? = none := by
  unfold alert?
  split
  · cases h
  · rfl

end

/-! ### Submissions -/

namespace Site

/-- The device that a submission is attributed to. -/
def sender (s : Site) (p : Submission) : Datum :=
  (s.directory.snapshot.resolve? (.text p.address)).getD (.int Device.unknownId)

/-- The rule that wins on a submission. -/
def winner? (s : Site) (p : Submission) : Option Rule :=
  (scan (.text p.text) (s.rules.snapshot.rulesOf (s.sender p))).2

/-- The verdict on a submission that comes in at a moment. -/
def verdict (s : Site) (p : Submission) (now : Moment) (transition : Option Transition) : Outcome :=
  (s.winner? p).elim (.quiet (p.message (s.sender p) now)) fun r =>
    Monitor.verdict (p.message (s.sender p) now) r transition

/-- What becomes of a site while a submission is classified. -/
inductive Judged (s : Site) (p : Submission) : Site → Prop
  | lost (nobody : s.winner? p = none) : Judged s p s
  | won {r : Rule} {transition : Option Transition} {after : Site} (winner : s.winner? p = some r)
      (aftermath : Aftermath r s True transition after) : Judged s p after

end Site

theorem body_message (p : Submission) (deviceId : Datum) (now : Moment) :
    body (p.message deviceId now) = .text p.text := by
  show (if Datum.isTruthy (.text p.text) then Datum.text p.text else .text "") = _
  split
  · rfl
  · next h =>
    have : p.text = "" := by simpa [Datum.isTruthy] using h
    rw [this]

namespace Setting

variable (s : Setting) (p : Submission)

theorem judged_classify (now : Moment) (keyed : (s.site.sender p).asKey = .ok (s.site.sender p))
    (within : s.site.rules.published ≤ s.site.rules.issued) :
    (∃ transition, (s.run (classify (p.message (s.site.sender p) now))).1 =
        .ok (s.site.verdict p now transition)) ∧
      s.site.Judged p (s.run (classify (p.message (s.site.sender p) now))).2.site := by
  have hscan : (scan (body (p.message (s.site.sender p) now))
      (s.site.rules.snapshot.rulesOf (s.site.sender p))).2 = s.site.winner? p := by
    rw [body_message]
    rfl
  unfold Site.verdict
  cases hwinner : s.site.winner? p with
  | none =>
    rw [s.run_classify_quiet keyed (hscan.trans hwinner)]
    exact ⟨⟨none, rfl⟩, .lost hwinner⟩
  | some r =>
    rw [s.run_classify_won keyed (hscan.trans hwinner)]
    refine ⟨⟨_, rfl⟩, ?_⟩
    unfold reaction
    split
    · have haftermath := ((s.later s.site).later s.site).aftermath_handle r within
      exact .won hwinner (haftermath.mono fun _ => trivial)
    · exact .won hwinner (.still (show none ≠ _ from nofun))

end Setting

/-! ### What is done with a verdict -/

/-- What is left to do once the message has been stored. -/
def passOn (deviceId : Datum) (o : Outcome) : Activity (Except Failure Outcome) :=
  (if o.notify then deliver deviceId o else pure ()) >>= fun _ => pure (.ok o)

def conclude (deviceId : Datum) : Except Failure Outcome → Activity (Except Failure Outcome)
  | .error failure => .done (.error failure)
  | .ok o => .ask (Call.store (.insertMessage o.message)) fun
    | .error failure => .done (.error failure)
    | .ok _ => passOn deviceId o

theorem ingest_eq (p : Submission) : ingest p = readDirectory >>= fun directory =>
    ask .now >>= fun (now : Moment) =>
      let deviceId := (directory.resolve? (.text p.address)).getD (.int Device.unknownId)
      classify (p.message deviceId now) >>= conclude deviceId := by
  refine congrArg (readDirectory >>= ·) (funext fun directory => ?_)
  refine congrArg (ask .now >>= ·) (funext fun now => ?_)
  refine congrArg (classify _ >>= ·) (funext fun verdict => ?_)
  cases verdict with
  | error failure => rfl
  | ok o =>
    refine congrArg (Program.ask _) (funext fun answer => ?_)
    cases answer with
    | error failure => rfl
    | ok _ =>
      unfold passOn
      cases o.notify <;> rfl

namespace Setting

variable (s : Setting)

/-- The device is looked up and the alert is sent; nothing else is left but to tell of a miss. -/
theorem exchanges_deliver (deviceId : Datum) (o : Outcome) : s.exchanges (deliver deviceId o) =
    ⟨.devices .read, s.site.directory.snapshot⟩ ::
      ⟨.alert (s.site.directory.snapshot.describe deviceId) o, (s.chances 1).delivered⟩ ::
        if (s.chances 1).delivered then [] else [⟨.tell [.notDelivered deviceId], ()⟩] := by
  show ⟨.devices .read, s.site.directory.snapshot⟩ ::
    ⟨.alert (s.site.directory.snapshot.describe deviceId) o, (s.chances 1).delivered⟩ ::
      exchanges _ (if !(s.chances 1).delivered then _ else _ : Activity Unit) = _
  cases (s.chances 1).delivered <;> rfl

theorem deliver_eq (deviceId : Datum) (o : Outcome) :
    (s.run (deliver deviceId o)).2.site = s.site ∧ s.failures (deliver deviceId o) = [] ∧
      s.alerts (deliver deviceId o) = [(s.site.directory.snapshot.describe deviceId, o)] := by
  unfold failures alerts
  rw [exchanges_deliver]
  refine ⟨?_, ?_, ?_⟩
  · show (Setting.run _ (if !(s.chances 1).delivered then _ else _ : Activity Unit)).2.site = _
    cases (s.chances 1).delivered <;> rfl
  · cases (s.chances 1).delivered <;> rfl
  · cases (s.chances 1).delivered <;> rfl

theorem passOn_eq (deviceId : Datum) (o : Outcome) :
    (s.run (passOn deviceId o)).1 = .ok o ∧ (s.run (passOn deviceId o)).2.site = s.site ∧
      s.failures (passOn deviceId o) = [] ∧ s.alerts (passOn deviceId o) =
        if o.notify then [(s.site.directory.snapshot.describe deviceId, o)] else [] := by
  unfold passOn
  rw [run_bind, failures_bind, alerts_bind]
  obtain ⟨hsite, hfailures, halerts⟩ := s.deliver_eq deviceId o
  cases o.notify with
  | false => exact ⟨rfl, rfl, rfl, rfl⟩
  | true => exact ⟨rfl, hsite, congrArg (· ++ []) hfailures, congrArg (· ++ []) halerts⟩

/-- The verdict stands when the message can be stored. -/
theorem conclude_stored (h : (s.chances 0).fault = none) (deviceId : Datum) (o : Outcome) :
    (s.run (conclude deviceId (.ok o))).1 = .ok o ∧
      (s.run (conclude deviceId (.ok o))).2.site.store.messages =
        s.site.store.messages ++ [o.message] ∧
      s.failures (conclude deviceId (.ok o)) = [] ∧
      s.alerts (conclude deviceId (.ok o)) =
        if o.notify then [(s.site.directory.snapshot.describe deviceId, o)] else [] := by
  unfold conclude
  rw [run_ask, failures_ask, alerts_ask, s.answer_store_ok h]
  obtain ⟨hanswer, hsite, hfailures, halerts⟩ := passOn_eq (s.later { s.site with
    store := (s.site.store.perform (s.chances 0).now (.insertMessage o.message)).2 }) deviceId o
  exact ⟨hanswer, congrArg (·.store.messages) hsite, hfailures, halerts⟩

theorem conclude_unstored {failure : Failure} (h : (s.chances 0).fault = some failure)
    (deviceId : Datum) (o : Outcome) :
    s.run (conclude deviceId (.ok o)) = (.error failure, s.later s.site) ∧
      s.failures (conclude deviceId (.ok o)) = [.insertMessage o.message] ∧
      s.alerts (conclude deviceId (.ok o)) = [] := by
  unfold conclude
  rw [run_ask, failures_ask, alerts_ask, s.answer_store_error h]
  exact ⟨rfl, rfl, rfl⟩

end Setting

/-! ### What is left of an attempt -/

section

variable {s after : Site} {missed : Prop}

theorem Site.Refreshed.directory {answer : Except Failure Part.rules.Snapshot}
    (h : s.Refreshed .rules answer after) : after.directory = s.directory := by
  cases h <;> rfl

/-- Handling a winner has to do with tags and rules alone. -/
theorem Aftermath.apart {r : Rule} {transition : Option Transition}
    (h : Aftermath r s missed transition after) :
    after.directory = s.directory ∧ after.store.messages = s.store.messages := by
  cases h with
  | still uncreated => exact ⟨rfl, rfl⟩
  | cleared planned answered reloaded =>
    obtain ⟨_, refreshed, _⟩ := reloaded
    exact ⟨refreshed.directory, congrArg (·.messages) refreshed.store⟩
  | tripped planned reloaded =>
    obtain ⟨_, refreshed, _⟩ := reloaded
    exact ⟨refreshed.directory, congrArg (·.messages) refreshed.store⟩

/-- A rule that wins among the rules of the stored tags wins after others have been added. -/
theorem find?_rulesOf_append {rows more : List Tag} {d : Datum} {f : Rule → Bool} {r : Rule}
    (h : ((rows.filterMap Tag.rule?).filter fun r => r.tag.deviceId == d).find? f = some r) :
    (((rows ++ more).filterMap Tag.rule?).filter fun r => r.tag.deviceId == d).find? f =
      some r := by
  rw [List.filterMap_append, List.filter_append, List.find?_append, h]
  rfl

/-- Whoever has won still does after a winner has been handled, unless it is an all-clear that is no
longer in force. -/
theorem Aftermath.find?_rulesOf {r : Rule} {transition : Option Transition}
    (h : Aftermath r s missed transition after) (numbered : s.store.tags.Numbered)
    (current : s.Current .rules) {d : Datum} {f : Rule → Bool}
    (won : (s.rules.snapshot.rulesOf d).find? f = some r)
    (kept : r.tag.isRecovery = true → r ∈ after.rules.snapshot.rulesOf d) :
    (after.rules.snapshot.rulesOf d).find? f = some r := by
  rcases h.current with hsame | hcurrent
  · rw [hsame]
    exact won
  · cases h with
    | still uncreated => exact won
    | tripped planned reloaded =>
      obtain ⟨_, refreshed, _⟩ := reloaded
      rw [current.rulesOf] at won
      rw [hcurrent.rulesOf, Site.rows, refreshed.store]
      exact find?_rulesOf_append won
    | cleared planned answered reloaded =>
      -- the tag was stored, so it has been deleted and cannot be in force
      obtain ⟨rfl, -, hrecovery⟩ := of_plan_delete planned
      obtain ⟨_, refreshed, _⟩ := reloaded
      have hstored := current.member (List.mem_of_find?_eq_some won)
      have hkept := hcurrent.member (kept hrecovery)
      obtain ⟨i, -, hi⟩ := numbered.given r.tag hstored
      rw [Site.rows, refreshed.store] at hkept
      change r.tag ∈ (s.store.tags.delete r.tag.id).2.rows at hkept
      rw [Store.Tags.delete_stored hi hstored] at hkept
      exact absurd rfl (of_decide_eq_true (List.mem_filter.mp hkept).2)

end

namespace Site

variable {s after : Site} {p : Submission}

theorem Judged.apart (h : s.Judged p after) :
    after.directory = s.directory ∧ after.store.messages = s.store.messages := by
  cases h with
  | lost nobody => exact ⟨rfl, rfl⟩
  | won winner aftermath => exact aftermath.apart

theorem Judged.sender (h : s.Judged p after) : after.sender p = s.sender p := by
  rw [Site.sender, Site.sender, h.apart.1]

theorem Judged.within (h : s.Judged p after) (before : s.rules.published ≤ s.rules.issued) :
    after.rules.published ≤ after.rules.issued := by
  cases h with
  | lost nobody => exact before
  | won winner aftermath => exact aftermath.within before

theorem Judged.winner? (h : s.Judged p after) (numbered : s.store.tags.Numbered)
    (current : s.Current .rules) (kept : ∀ r, s.winner? p = some r → r.tag.isRecovery = true →
      r ∈ after.rules.snapshot.rulesOf (s.sender p)) : after.winner? p = s.winner? p := by
  have hsender := h.sender
  cases h with
  | lost nobody => rfl
  | @won r transition after winner aftermath =>
    rw [winner]
    rw [Site.winner?, winner_scan] at winner ⊢
    rw [hsender]
    refine aftermath.find?_rulesOf numbered current winner (kept r ?_)
    rw [Site.winner?, winner_scan, winner]

end Site

/-! ### Attempts -/

/-- Verdicts that differ in no more than when the message came in and what was done about the
winner. -/
def Agree (o other : Outcome) : Prop :=
  ∃ received transition, other = { o with message := { o.message with received }, transition }

namespace Setting

variable (s : Setting) (p : Submission)

/-- How a submission is classified, once the device and the time are known. -/
def judge : Activity (Except Failure Outcome) :=
  classify (p.message (s.site.sender p) (s.chances 1).now)

/-- The verdict on a submission, and the setting afterwards. -/
def judged : Except Failure Outcome × Setting := ((s.later s.site).later s.site).run (s.judge p)

theorem run_ingest : s.run (ingest p) =
    (s.judged p).2.run (conclude (s.site.sender p) (s.judged p).1) := by
  have hstart : s.run (ingest p) = ((s.later s.site).later s.site).run
      (s.judge p >>= conclude (s.site.sender p)) := by
    rw [ingest_eq]
    rfl
  rw [hstart, run_bind]
  rfl

/-- The device is resolved and the clock is read; then come the verdict and what is done with it. -/
theorem exchanges_ingest : s.exchanges (ingest p) =
    ⟨.devices .read, s.site.directory.snapshot⟩ :: ⟨.now, (s.chances 1).now⟩ ::
      (((s.later s.site).later s.site).exchanges (s.judge p) ++
        (s.judged p).2.exchanges (conclude (s.site.sender p) (s.judged p).1)) := by
  have hstart : s.exchanges (ingest p) =
      ⟨.devices .read, s.site.directory.snapshot⟩ :: ⟨.now, (s.chances 1).now⟩ ::
        ((s.later s.site).later s.site).exchanges (s.judge p >>= conclude (s.site.sender p)) := by
    rw [ingest_eq]
    rfl
  rw [hstart, exchanges_bind]
  rfl

theorem failures_ingest : s.failures (ingest p) =
    ((s.later s.site).later s.site).failures (s.judge p) ++
      (s.judged p).2.failures (conclude (s.site.sender p) (s.judged p).1) := by
  unfold failures
  rw [exchanges_ingest, ← List.filterMap_append]
  rfl

/-- What is read off no question that stays with the tags is read off what is done with the
verdict. -/
theorem filterMap_exchanges_ingest {γ : Type} {f : Exchange → Option γ}
    (nothing : ∀ e : Exchange, e.call.staysWithTags = true → f e = none) :
    (s.exchanges (ingest p)).filterMap f =
      ((s.judged p).2.exchanges (conclude (s.site.sender p) (s.judged p).1)).filterMap f := by
  have hjudge : StaysWithTags (s.judge p) := staysWithTags_classify _
  rw [exchanges_ingest, List.filterMap_cons_none (nothing _ rfl),
    List.filterMap_cons_none (nothing _ rfl), List.filterMap_append,
    hjudge.filterMap_exchanges nothing, List.nil_append]

theorem alerts_ingest : s.alerts (ingest p) =
    (s.judged p).2.alerts (conclude (s.site.sender p) (s.judged p).1) :=
  s.filterMap_exchanges_ingest p Exchange.alert?_of_staysWithTags

/-- Whether the message can be stored is found out after the verdict. -/
theorem mem_failures_ingest {m : Message} : .insertMessage m ∈ s.failures (ingest p) ↔
    .insertMessage m ∈ (s.judged p).2.failures (conclude (s.site.sender p) (s.judged p).1) := by
  rw [failures_ingest, List.mem_append, or_iff_right]
  intro hfailed
  cases (staysWithTags_classify _).kind_of_failure hfailed

/-- An attempt that succeeds: what it answers, stores and sends. -/
structure TakesIn (device : Device) (o : Outcome) : Prop where
  answer : (s.run (ingest p)).1 = .ok o
  verdict : ∃ now transition, o = s.site.verdict p now transition
  messages : (s.run (ingest p)).2.site.store.messages = s.site.store.messages ++ [o.message]
  alerts : s.alerts (ingest p) = if o.notify then [(device, o)] else []

variable {s p}

/-- The verdict of an attempt, and what it leaves behind. -/
theorem judged_spec (keyed : (s.site.sender p).asKey = .ok (s.site.sender p))
    (within : s.site.rules.published ≤ s.site.rules.issued) :
    (∃ transition, (s.judged p).1 = .ok (s.site.verdict p (s.chances 1).now transition)) ∧
      s.site.Judged p (s.judged p).2.site :=
  ((s.later s.site).later s.site).judged_classify p (s.chances 1).now keyed within

theorem takesIn (keyed : (s.site.sender p).asKey = .ok (s.site.sender p))
    (within : s.site.rules.published ≤ s.site.rules.issued)
    (stored : ∀ m, .insertMessage m ∉ s.failures (ingest p)) :
    ∃ o, s.TakesIn p (s.site.directory.snapshot.describe (s.site.sender p)) o := by
  obtain ⟨⟨transition, hverdict⟩, hjudged⟩ := judged_spec keyed within
  obtain ⟨hdirectory, hmessages⟩ := hjudged.apart
  have hrun := s.run_ingest p
  have halerts := s.alerts_ingest p
  have hstored := fun m => mt (s.mem_failures_ingest p).mpr (stored m)
  rw [hverdict] at hrun halerts hstored
  generalize ho : s.site.verdict p (s.chances 1).now transition = o at hrun halerts hstored
  cases hfault : ((s.judged p).2.chances 0).fault with
  | some failure =>
    refine absurd ?_ (hstored o.message)
    rw [(conclude_unstored _ hfault _ _).2.1]
    exact List.mem_singleton_self _
  | none =>
    obtain ⟨hanswer, hinserted, -, hsent⟩ := conclude_stored _ hfault (s.site.sender p) o
    rw [hmessages] at hinserted
    rw [hdirectory] at hsent
    exact ⟨o, hrun ▸ hanswer, ⟨_, _, ho.symm⟩, hrun ▸ hinserted, halerts.trans hsent⟩

/-- When the message cannot be stored, the attempt fails, but the winner has been handled. -/
theorem judged_of_unstored {m : Message} (within : s.site.rules.published ≤ s.site.rules.issued)
    (failed : .insertMessage m ∈ s.failures (ingest p)) :
    (s.site.sender p).asKey = .ok (s.site.sender p) ∧
      (∃ failure, (s.run (ingest p)).1 = .error failure) ∧ s.alerts (ingest p) = [] ∧
      s.site.Judged p (s.run (ingest p)).2.site := by
  have hrun := s.run_ingest p
  have halerts := s.alerts_ingest p
  rw [mem_failures_ingest] at failed
  cases hkey : (s.site.sender p).asKey with
  | error fault =>
    have hmisuse : (s.judged p).1 = .error (.misuse fault) :=
      congrArg Prod.fst (run_classify_misuse _ hkey)
    rw [hmisuse] at failed
    cases failed
  | ok key =>
    obtain ⟨keyed, rfl⟩ := Book.asKey_eq_ok.mp hkey
    obtain ⟨⟨transition, hverdict⟩, hjudged⟩ := judged_spec keyed within
    rw [hverdict] at hrun halerts failed
    cases hfault : ((s.judged p).2.chances 0).fault with
    | none =>
      rw [(conclude_stored _ hfault _ _).2.2.1] at failed
      cases failed
    | some failure =>
      obtain ⟨hconclude, -, hsilent⟩ := conclude_unstored _ hfault (s.site.sender p)
        (s.site.verdict p (s.chances 1).now transition)
      rw [hrun, halerts, hconclude]
      exact ⟨rfl, ⟨failure, rfl⟩, hsilent, hjudged⟩

/-- Verdicts by the same winner agree. -/
theorem TakesIn.agree {other : Setting} {device device' : Device} {o o' : Outcome}
    (first : s.TakesIn p device o) (second : other.TakesIn p device' o')
    (sender : other.site.sender p = s.site.sender p)
    (winner : other.site.winner? p = s.site.winner? p) : Agree o o' := by
  obtain ⟨now, transition, rfl⟩ := first.verdict
  obtain ⟨now', transition', rfl⟩ := second.verdict
  unfold Site.verdict
  rw [sender, winner]
  cases s.site.winner? p with
  | none => exact ⟨.moment now', none, rfl⟩
  | some r =>
    refine ⟨.moment now', transition', ?_⟩
    simp only [Option.elim_some, Monitor.verdict, graded]
    split <;> rfl

/-- When the message of a submission cannot be stored, the attempt fails and sends nothing, but the
winner has been handled. Unless that has put an all-clear out of force, a second attempt that can
store the message comes to the same verdict as the first would have, and sends the same alert. -/
theorem ingest_again_agrees {s : Setting} {p : Submission} {m : Message}
    (numbered : s.site.store.tags.Numbered)
    (inOrder : s.site.rules.published ≤ s.site.rules.issued) (current : s.site.Current .rules)
    (unstored : .insertMessage m ∈ s.failures (ingest p)) :
    (∃ failure, (s.run (ingest p)).1 = .error failure) ∧ s.alerts (ingest p) = [] ∧
      s.site.Judged p (s.run (ingest p)).2.site ∧
      ((∀ r, s.site.winner? p = some r → r.tag.isRecovery = true →
          r ∈ (s.run (ingest p)).2.site.rules.snapshot.rulesOf (s.site.sender p)) →
        ∀ first second : Setting, first.site = s.site → second.site = (s.run (ingest p)).2.site →
          (∀ m, .insertMessage m ∉ first.failures (ingest p)) →
          (∀ m, .insertMessage m ∉ second.failures (ingest p)) →
          ∃ device o other, first.TakesIn p device o ∧ second.TakesIn p device other ∧
            Agree o other) := by
  obtain ⟨keyed, hfailed, hsilent, hjudged⟩ := judged_of_unstored inOrder unstored
  refine ⟨hfailed, hsilent, hjudged, fun kept first second hfirst hsecond hstored hrestored => ?_⟩
  have hsender : second.site.sender p = first.site.sender p := by
    rw [hfirst, hsecond, hjudged.sender]
  have hdirectory : second.site.directory = first.site.directory := by
    rw [hfirst, hsecond, hjudged.apart.1]
  have hwinner : second.site.winner? p = first.site.winner? p := by
    rw [hfirst, hsecond, hjudged.winner? numbered current kept]
  obtain ⟨o, ho⟩ := takesIn (hfirst ▸ keyed) (hfirst ▸ inOrder) hstored
  have hkeyed : (second.site.sender p).asKey = .ok (second.site.sender p) := by
    rw [hsender, hfirst]
    exact keyed
  obtain ⟨other, hother⟩ := takesIn hkeyed (hsecond ▸ hjudged.within inOrder) hrestored
  rw [hsender, hdirectory] at hother
  exact ⟨_, o, other, ho, hother, ho.agree hother hsender hwinner⟩

/-- A device whose address is known, with one tag. -/
def watched (compareType subject : String) : Store :=
  { stocked [⟨.int 1, .text "hot", ⟨.text ".", .text compareType, .text "5", .int 0⟩,
      .text subject, .text "high"⟩] ⟨0, none⟩ with
    devices := (Store.Devices.empty.create ⟨0, none⟩
      ⟨.text "pump", .text "pump", .text "10.0.0.1", .list []⟩).2 }

/-- Everything has been loaded, and nothing fails. -/
def calm (store : Store) : Setting where
  site := (Setting.run ⟨.fresh store, fun _ => .calm ⟨0, none⟩⟩ loadAll).2.site
  chances _ := .calm ⟨0, none⟩

/-- The same, but the message cannot be stored once the winner has been handled. -/
def blocked (store : Store) : Setting where
  site := (calm store).site
  chances n := { Chance.calm ⟨0, none⟩ with
    fault := if n = 11 then some (.unavailable "insert_message") else none }

def packet (text : String) : Submission := ⟨text, "log", "core", "10.0.0.1"⟩

theorem numbered_watched (compareType subject : String) :
    (watched compareType subject).tags.Numbered :=
  Store.Tags.numbered_empty.create _ _

/-- An alerting tag wins; its all-clear stands, though the message could not be stored. -/
theorem ingest_again_agrees_tripped :
    ((blocked (watched ">" "Hot")).run (ingest (packet "9"))).2.site.rows.length = 2 ∧
      ∃ device o other, (calm (watched ">" "Hot")).TakesIn (packet "9") device o ∧
        ((blocked (watched ">" "Hot")).run (ingest (packet "9"))).2.TakesIn (packet "9") device
          other ∧ Agree o other := by
  have current : (blocked (watched ">" "Hot")).site.Current .rules := ⟨⟨_, rfl, rfl⟩, rfl⟩
  obtain ⟨-, -, -, again⟩ := ingest_again_agrees (s := blocked (watched ">" "Hot"))
    (p := packet "9") (numbered_watched _ _) (Int.le_refl _) current List.mem_cons_self
  have hfirst : (calm (watched ">" "Hot")).failures (ingest (packet "9")) = [] := by
    decide +kernel
  have hsecond : ((blocked (watched ">" "Hot")).run (ingest (packet "9"))).2.failures
      (ingest (packet "9")) = [] := by
    decide +kernel
  refine ⟨by decide +kernel, again (fun r won recovery => ?_) _ _ rfl rfl ?_ ?_⟩
  · cases won
    cases recovery
  · rw [hfirst]
    nofun
  · rw [hsecond]
    nofun

/-- An all-clear wins. It is deleted before the message fails to be stored, and the second attempt
sends no alert. -/
theorem alert_lost_with_all_clear :
    (calm (watched "<" "OK")).site = (blocked (watched "<" "OK")).site ∧
      ((blocked (watched "<" "OK")).run (ingest (packet "3"))).1 =
        .error (.unavailable "insert_message") ∧
      (blocked (watched "<" "OK")).site.rows.length = 1 ∧
      ((blocked (watched "<" "OK")).run (ingest (packet "3"))).2.site.rows = [] ∧
      ((calm (watched "<" "OK")).run (ingest (packet "3"))).1.map (·.notify) = .ok true ∧
      (((blocked (watched "<" "OK")).run (ingest (packet "3"))).2.run
        (ingest (packet "3"))).1.map (·.notify) = .ok false :=
  ⟨rfl, rfl, rfl, rfl, rfl, rfl⟩

end Setting

end DeviceAlerts.Monitor
