import DeviceAlerts.Proofs.Monitor.Cycle
import DeviceAlerts.Proofs.Monitor.Retry

/-! Messages that are taken in one after the other by a store that never fails. Every call answers
an outcome, stores the message of that outcome and, when it asks for an alert, sends it with that
outcome, in this order. The rules change on the way, since winners are handled, but the directory
does not. Whether alerts are delivered makes no difference: a call ends with its alert, and nothing
that it leaves behind depends on what became of it. -/

namespace DeviceAlerts.Monitor

open DeviceAlerts.Time

/-! ### What is stored and sent -/

/-- A message that has been stored, or an alert that has been sent. -/
inductive Dispatch
  | stored (message : Message)
  | alerted (device : Device) (outcome : Outcome)
  deriving DecidableEq

/-- A message that could not be stored is none; an alert is one, whether it was delivered or not. -/
def Exchange.dispatch? : Exchange → Option Dispatch
  | ⟨.store (.insertMessage m), (.ok _ : Except Failure Unit)⟩ => some (.stored m)
  | ⟨.alert device outcome, _⟩ => some (.alerted device outcome)
  | _ => none

/-- What has to be stored and sent on account of an outcome. -/
def due (directory : Directory) (o : Outcome) : List Dispatch :=
  .stored o.message ::
    if o.notify then [.alerted (directory.describe o.message.deviceId) o] else []

namespace Setting

variable {α β : Type} (s : Setting)

/-- What is stored and sent in a run, in its order. -/
def dispatches (activity : Activity α) : List Dispatch :=
  (s.exchanges activity).filterMap Exchange.dispatch?

theorem dispatches_bind (first : Activity α) (rest : α → Activity β) :
    s.dispatches (first >>= rest) =
      s.dispatches first ++ (s.run first).2.dispatches (rest (s.run first).1) :=
  s.filterMap_exchanges_bind _ first rest

theorem dispatches_ask (c : Call) (next : c.Answer → Activity α) :
    s.dispatches (.ask c next) =
      (Exchange.dispatch? ⟨c, (answer c s).1⟩).toList ++
        (answer c s).2.dispatches (next (answer c s).1) :=
  s.filterMap_exchanges_ask _ c next

end Setting

theorem Exchange.dispatch?_of_staysWithTags (e : Exchange) (h : e.call.staysWithTags = true) :
    e.dispatch? = none := by
  unfold dispatch?
  split
  · cases h
  · cases h
  · rfl

namespace Setting

variable (s : Setting)

theorem dispatches_deliver (deviceId : Datum) (o : Outcome) :
    s.dispatches (deliver deviceId o) =
      [.alerted (s.site.directory.snapshot.describe deviceId) o] := by
  unfold dispatches
  rw [exchanges_deliver]
  cases (s.chances 1).delivered <;> rfl

theorem dispatches_passOn (deviceId : Datum) (o : Outcome) : s.dispatches (passOn deviceId o) =
    if o.notify then [.alerted (s.site.directory.snapshot.describe deviceId) o] else [] := by
  unfold passOn
  rw [dispatches_bind]
  cases o.notify with
  | false => rfl
  | true => exact congrArg (· ++ []) (s.dispatches_deliver deviceId o)

/-- A site at which a message more is stored. -/
def filed (m : Message) : Site :=
  { s.site with store := { s.site.store with messages := s.site.store.messages ++ [m] } }

theorem run_conclude (h : (s.chances 0).fault = none) (deviceId : Datum) (o : Outcome) :
    (s.run (conclude deviceId (.ok o))).1 = .ok o ∧
      (s.run (conclude deviceId (.ok o))).2.site = s.filed o.message ∧
      s.dispatches (conclude deviceId (.ok o)) = .stored o.message ::
        if o.notify then [.alerted (s.site.directory.snapshot.describe deviceId) o] else [] := by
  unfold conclude
  rw [run_ask, dispatches_ask, s.answer_store_ok h]
  obtain ⟨hanswer, hsite, -, -⟩ := passOn_eq (s.later (s.filed o.message)) deviceId o
  have hdispatches := dispatches_passOn (s.later (s.filed o.message)) deviceId o
  exact ⟨hanswer, hsite, congrArg (Dispatch.stored o.message :: ·) hdispatches⟩

theorem dispatches_ingest (p : Submission) : s.dispatches (ingest p) =
    (s.judged p).2.dispatches (conclude (s.site.sender p) (s.judged p).1) :=
  s.filterMap_exchanges_ingest p Exchange.dispatch?_of_staysWithTags

end Setting

/-! ### One message -/

namespace Site

variable (s : Site) (p : Submission)

/-- The first rule of the sender that fires on a submission. -/
def firing? : Option Rule :=
  (s.rules.snapshot.rulesOf (s.sender p)).find? fun r => r.fires (.text p.text)

theorem winner?_eq_firing? : s.winner? p = s.firing? p := winner_scan _ _

/-- The severity of the tag that wins, unless it has none. -/
def severity : Datum :=
  match s.firing? p with
  | some r => if r.tag.severity.isTruthy then r.tag.severity else .text "info"
  | none => .text "info"

/-- A verdict grades a message and changes nothing else of it. -/
theorem verdict_message (now : Moment) (transition : Option Transition) :
    (s.verdict p now transition).message =
      { p.message (s.sender p) now with severity := s.severity p } := by
  unfold verdict severity
  rw [winner?_eq_firing?]
  cases s.firing? p with
  | none => rfl
  | some r =>
    show graded (p.message (s.sender p) now) r = _
    unfold graded
    by_cases hgraded : r.tag.severity.isTruthy = true
    · simp only [if_pos hgraded]
    · simp only [if_neg hgraded]
      rfl

theorem notify_verdict (now : Moment) (transition : Option Transition) :
    (s.verdict p now transition).notify = (s.firing? p).isSome := by
  unfold verdict
  rw [winner?_eq_firing?]
  cases s.firing? p <;> rfl

end Site

/-- The outcome of a submission: its message is what was submitted, under the device that has the
address and with the severity of the tag that won. -/
structure Carries (s : Site) (p : Submission) (o : Outcome) : Prop where
  text : o.message.text = .text p.text
  type : o.message.type = .text p.type
  component : o.message.component = .text p.component
  deviceId : o.message.deviceId =
    (s.directory.snapshot.resolve? (.text p.address)).getD (.int (-1))
  severity : o.message.severity = s.severity p
  notify : o.notify = (s.firing? p).isSome

theorem carries_verdict (s : Site) (p : Submission) (now : Moment)
    (transition : Option Transition) : Carries s p (s.verdict p now transition) := by
  have hmessage := s.verdict_message p now transition
  refine ⟨?_, ?_, ?_, ?_, ?_, s.notify_verdict p now transition⟩ <;> rw [hmessage] <;> rfl

/-- A site at which messages can be taken in: the rules are not ahead of their tickets, and the
devices that are found by their addresses have numbers. -/
structure Site.Receptive (s : Site) : Prop where
  within : s.rules.published ≤ s.rules.issued
  numbers : ∀ d ∈ s.directory.snapshot.byAddress.values, ∃ i : Int, d.id = .int i

theorem Site.Receptive.keyed {s : Site} (h : s.Receptive) (p : Submission) :
    (s.sender p).asKey = .ok (s.sender p) := by
  unfold sender Directory.resolve? Table.get?
  cases hfound : s.directory.snapshot.byAddress.find? fun row => row.1 == Datum.text p.address with
  | none => rfl
  | some row =>
    have hvalue : row.2 ∈ s.directory.snapshot.byAddress.values :=
      List.mem_map_of_mem (List.mem_of_find?_eq_some hfound)
    obtain ⟨i, hid⟩ := h.numbers row.2 hvalue
    show row.2.id.asKey = .ok row.2.id
    rw [hid]
    rfl

/-- A submission has been taken in: what was answered, stored and sent. -/
structure Setting.Received (s : Setting) (p : Submission) (o : Outcome) : Prop where
  answer : (s.run (ingest p)).1 = .ok o
  carries : Carries s.site p o
  messages : (s.run (ingest p)).2.site.store.messages = s.site.store.messages ++ [o.message]
  dispatches : s.dispatches (ingest p) = due s.site.directory.snapshot o
  directory : (s.run (ingest p)).2.site.directory = s.site.directory
  within : (s.run (ingest p)).2.site.rules.published ≤ (s.run (ingest p)).2.site.rules.issued

/-- A submission is taken in when its message can be stored. -/
theorem Setting.received_of_stored {s : Setting} (receptive : s.site.Receptive) {p : Submission}
    (stored : ((s.judged p).2.chances 0).fault = none) : ∃ o, s.Received p o := by
  obtain ⟨⟨transition, hverdict⟩, hjudged⟩ := judged_spec (receptive.keyed p) receptive.within
  have hcarries := carries_verdict s.site p (s.chances 1).now transition
  generalize s.site.verdict p (s.chances 1).now transition = o at hverdict hcarries
  obtain ⟨hanswer, hsite, hdispatches⟩ := (s.judged p).2.run_conclude stored (s.site.sender p) o
  obtain ⟨hdirectory, hmessages⟩ := hjudged.apart
  have hrun := s.run_ingest p
  have hdue := s.dispatches_ingest p
  have hsender : s.site.sender p = o.message.deviceId := hcarries.deviceId.symm
  rw [hverdict] at hrun hdue
  rw [hdispatches, hdirectory, hsender] at hdue
  rw [← hrun] at hanswer hsite
  refine ⟨o, hanswer, hcarries, ?_, hdue, ?_, ?_⟩ <;> rw [hsite]
  · exact congrArg (· ++ [o.message]) hmessages
  · exact hdirectory
  · exact hjudged.within receptive.within

theorem Setting.received {s : Setting} (smooth : s.Smooth) (receptive : s.site.Receptive)
    (p : Submission) : ∃ o, s.Received p o :=
  received_of_stored receptive (((smooth.later s.site).later s.site).run (s.judge p) 0)

theorem Setting.Received.receptive {s : Setting} {p : Submission} {o : Outcome}
    (h : s.Received p o) (before : s.site.Receptive) : (s.run (ingest p)).2.site.Receptive :=
  ⟨h.within, h.directory ▸ before.numbers⟩

/-! ### One message after the other -/

/-- A message that comes in, with all that is chosen while it is taken in. -/
structure Intake where
  submission : Submission
  chances : Nat → Chance

/-- An intake and the site as it was found. -/
structure Reception where
  site : Site
  intake : Intake

namespace Reception

variable (e : Reception)

def setting : Setting := ⟨e.site, e.intake.chances⟩

def answer : Except Failure Outcome := (e.setting.run (ingest e.intake.submission)).1

def dispatches : List Dispatch := e.setting.dispatches (ingest e.intake.submission)

end Reception

/-- The site after an intake. -/
def takeIn (s : Site) (i : Intake) : Site × Reception :=
  ((Setting.run ⟨s, i.chances⟩ (ingest i.submission)).2.site, ⟨s, i⟩)

theorem intake_events (s : Site) (intakes : List Intake) :
    (Course.events takeIn s intakes).map Reception.intake = intakes := by
  induction intakes generalizing s with
  | nil => rfl
  | cons i rest ih => exact congrArg (i :: ·) (ih (takeIn s i).1)

/-- No store call fails. -/
def Intake.Smooth (i : Intake) : Prop := ∀ n, (i.chances n).fault = none

/-- Messages are taken in one after the other, and none is lost, repeated or moved. -/
theorem received_in_order {s : Site} (receptive : s.Receptive) {intakes : List Intake}
    (smooth : ∀ i ∈ intakes, i.Smooth) : ∃ outcomes : List Outcome,
      List.Forall₂ (fun (e : Reception) o => e.setting.Received e.intake.submission o)
        (Course.events takeIn s intakes) outcomes ∧
      (Course.after takeIn s intakes).store.messages =
        s.store.messages ++ outcomes.map (·.message) ∧
      (Course.events takeIn s intakes).flatMap Reception.dispatches =
        outcomes.flatMap (due s.directory.snapshot) ∧
      (Course.after takeIn s intakes).directory = s.directory := by
  induction intakes generalizing s with
  | nil => exact ⟨[], .nil, (List.append_nil _).symm, rfl, rfl⟩
  | cons i rest ih =>
    obtain ⟨first, others⟩ := List.forall_mem_cons.mp smooth
    obtain ⟨o, ho⟩ := Setting.received (s := ⟨s, i.chances⟩) first receptive i.submission
    obtain ⟨outcomes, hreceived, hmessages, hdispatches, hdirectory⟩ :=
      ih (ho.receptive receptive) others
    rw [ho.messages, List.append_assoc] at hmessages
    rw [ho.directory] at hdispatches
    refine ⟨o :: outcomes, .cons ho hreceived, hmessages, ?_, hdirectory.trans ho.directory⟩
    rw [Course.events_cons, List.flatMap_cons, List.flatMap_cons]
    exact congrArg₂ (· ++ ·) ho.dispatches hdispatches

/-! ### Alerts that are not delivered -/

/-- Two chances that differ in no more than whether an alert is delivered. -/
def Chance.Alike (x y : Chance) : Prop := ∃ delivered, y = { x with delivered }

/-- An answer depends on what becomes of alerts only if it is the answer to one. -/
theorem Site.answer_alike (s : Site) {x y : Chance} (h : x.Alike y) {c : Call}
    (silent : ∀ device outcome, c ≠ .alert device outcome) : s.answer y c = s.answer x c := by
  obtain ⟨delivered, rfl⟩ := h
  cases c with
  | alert device outcome => exact absurd rfl (silent device outcome)
  | _ => rfl

/-- Two settings that differ in no more than which alerts are delivered. -/
structure Setting.Alike (s other : Setting) : Prop where
  site : other.site = s.site
  chances : ∀ n, (s.chances n).Alike (other.chances n)

namespace Setting.Alike

variable {s other : Setting}

theorem answer (h : s.Alike other) {c : Call}
    (silent : ∀ device outcome, c ≠ .alert device outcome) :
    (Setting.answer c other).1 = (Setting.answer c s).1 ∧
      (Setting.answer c s).2.Alike (Setting.answer c other).2 := by
  obtain ⟨site, chances⟩ := other
  obtain ⟨rfl, hchances⟩ := h
  have hsame := s.site.answer_alike (hchances 0) silent
  have hanswer := congrArg Prod.fst hsame
  have hsite := congrArg Prod.snd hsame
  exact ⟨hanswer, hsite, fun n => hchances (n + 1)⟩

theorem run {α : Type} {activity : Activity α} (h : s.Alike other)
    (stays : StaysWithTags activity) : (other.run activity).1 = (s.run activity).1 ∧
      (s.run activity).2.Alike (other.run activity).2 := by
  induction activity generalizing s other with
  | done a => exact ⟨rfl, h⟩
  | ask c next ih =>
    obtain ⟨may, rest⟩ := stays
    obtain ⟨hanswer, hlater⟩ := h.answer (c := c) fun device outcome hc => by
      subst hc
      cases may
    rw [run_ask, run_ask, hanswer]
    exact ih _ hlater (rest _ trivial)

/-- The alert is the last thing that is done, and what becomes of it is lost. -/
theorem conclude (h : s.Alike other) (deviceId : Datum) (verdict : Except Failure Outcome) :
    let rest := Monitor.conclude deviceId verdict
    (other.run rest).1 = (s.run rest).1 ∧ (other.run rest).2.site = (s.run rest).2.site ∧
      other.dispatches rest = s.dispatches rest := by
  cases verdict with
  | error failure => exact ⟨rfl, h.site, rfl⟩
  | ok o =>
    obtain ⟨hanswer, hlater⟩ := h.answer (c := .store (.insertMessage o.message)) nofun
    simp only [Monitor.conclude, run_ask, dispatches_ask, hanswer]
    cases (Setting.answer (.store (.insertMessage o.message)) s).1 with
    | error failure => exact ⟨rfl, hlater.site, rfl⟩
    | ok _ =>
      generalize (Setting.answer (.store (.insertMessage o.message)) s).2 = after at hlater ⊢
      generalize (Setting.answer (.store (.insertMessage o.message)) other).2 = after' at hlater ⊢
      obtain ⟨hfirst, hsite, -, -⟩ := after.passOn_eq deviceId o
      obtain ⟨hsecond, hsite', -, -⟩ := after'.passOn_eq deviceId o
      refine ⟨hsecond.trans hfirst.symm, hsite'.trans (hlater.site.trans hsite.symm), ?_⟩
      simp only [dispatches_passOn, hlater.site]

theorem judged (h : s.Alike other) (p : Submission) :
    (other.judged p).1 = (s.judged p).1 ∧ (s.judged p).2.Alike (other.judged p).2 := by
  have hjudge : other.judge p = s.judge p := by
    obtain ⟨delivered, hchance⟩ := h.chances 1
    unfold judge
    rw [h.site, hchance]
  have hlater : ((s.later s.site).later s.site).Alike ((other.later other.site).later other.site) :=
    ⟨h.site, fun n => h.chances (n + 2)⟩
  unfold Setting.judged
  rw [hjudge]
  exact hlater.run (staysWithTags_classify _)

theorem ingest (h : s.Alike other) (p : Submission) :
    (other.run (ingest p)).1 = (s.run (ingest p)).1 ∧
      (other.run (ingest p)).2.site = (s.run (ingest p)).2.site ∧
      other.dispatches (ingest p) = s.dispatches (ingest p) := by
  obtain ⟨hverdict, hjudged⟩ := h.judged p
  rw [run_ingest, run_ingest, dispatches_ingest, dispatches_ingest, hverdict, h.site]
  exact hjudged.conclude _ _

end Setting.Alike

def Intake.Alike (i other : Intake) : Prop :=
  other.submission = i.submission ∧ ∀ n, (i.chances n).Alike (other.chances n)

/-- Runs that differ in no more than which alerts are delivered come to the same. -/
theorem takeIn_alike {intakes others : List Intake} (h : List.Forall₂ Intake.Alike intakes others)
    (s : Site) : Course.after takeIn s others = Course.after takeIn s intakes ∧
      (Course.events takeIn s others).map Reception.answer =
        (Course.events takeIn s intakes).map Reception.answer ∧
      (Course.events takeIn s others).map Reception.dispatches =
        (Course.events takeIn s intakes).map Reception.dispatches := by
  induction h generalizing s with
  | nil => exact ⟨rfl, rfl, rfl⟩
  | @cons i other rest rest' alike _ ih =>
    obtain ⟨submission, chances⟩ := other
    obtain ⟨rfl, hchances⟩ := alike
    have settings : Setting.Alike ⟨s, i.chances⟩ ⟨s, chances⟩ := ⟨rfl, hchances⟩
    obtain ⟨hanswer, hsite, hdispatches⟩ := settings.ingest i.submission
    have hstep : (takeIn s ⟨i.submission, chances⟩).1 = (takeIn s i).1 := hsite
    obtain ⟨hafter, hanswers, hall⟩ := ih (takeIn s i).1
    rw [Course.after_cons, Course.events_cons, Course.events_cons, hstep]
    exact ⟨hafter, congrArg₂ List.cons hanswer hanswers, congrArg₂ List.cons hdispatches hall⟩

/-- When no store call fails, every message that comes in is answered by an outcome which carries
it, and the messages of the outcomes are stored behind the earlier ones, in their order. Each is
stored once, and right after it the alert that its outcome asks for is sent, with the device that
the directory has for it; nothing else is stored or sent. Which alerts are delivered makes no
difference to the outcomes, to what is stored and sent, or to the site that is left. -/
theorem delivered_in_order {s : Site} (receptive : s.Receptive) {intakes : List Intake}
    (smooth : ∀ i ∈ intakes, i.Smooth) :
    let receptions := Course.events takeIn s intakes
    let last := Course.after takeIn s intakes
    receptions.map Reception.intake = intakes ∧
    (∃ outcomes : List Outcome,
      List.Forall₂ (fun e o => e.answer = .ok o ∧ Carries e.site e.intake.submission o)
        receptions outcomes ∧
      last.store.messages = s.store.messages ++ outcomes.map (·.message) ∧
      receptions.flatMap Reception.dispatches = outcomes.flatMap (due s.directory.snapshot)) ∧
    last.directory = s.directory ∧
    ∀ others, List.Forall₂ Intake.Alike intakes others →
      Course.after takeIn s others = last ∧
      (Course.events takeIn s others).map Reception.answer = receptions.map Reception.answer ∧
      (Course.events takeIn s others).map Reception.dispatches =
        receptions.map Reception.dispatches := by
  intro receptions last
  obtain ⟨outcomes, received, messages, dispatches, directory⟩ := received_in_order receptive smooth
  refine ⟨intake_events s intakes, ⟨outcomes, ?_, messages, dispatches⟩, directory,
    fun others alike => takeIn_alike alike s⟩
  exact received.imp fun e o h => ⟨h.answer, h.carries⟩

/-- A message whose alert is delivered or not. -/
def arriving (text address : String) (delivered : Bool) : Intake :=
  ⟨⟨text, "log", "core", address⟩, fun _ => { Chance.calm ⟨0, none⟩ with delivered }⟩

/-- An alert, a message from nobody, and the all-clear, of which nobody hears. -/
def unheard : List Intake :=
  [arriving "9" "10.0.0.1" false, arriving "9" "10.0.0.9" false, arriving "3" "10.0.0.1" false]

theorem delivered_in_order_unheard :
    let s := (Setting.calm (Setting.watched ">" "Hot")).site
    let last := Course.after takeIn s unheard
    last.store.messages.map (·.severity) = [.text "high", .text "info", .text "info"] ∧
      (∃ outcomes : List Outcome, last.store.messages = outcomes.map (·.message) ∧
        (Course.events takeIn s unheard).flatMap Reception.dispatches =
          outcomes.flatMap (due s.directory.snapshot)) ∧
      Course.after takeIn s
        [arriving "9" "10.0.0.1" true, arriving "9" "10.0.0.9" true, arriving "3" "10.0.0.1" true] =
          last := by
  have receptive : (Setting.calm (Setting.watched ">" "Hot")).site.Receptive := by
    refine ⟨Int.le_refl _, fun d hd => ?_⟩
    obtain rfl := List.mem_singleton.mp hd
    exact ⟨1, rfl⟩
  have smooth : ∀ i ∈ unheard, i.Smooth := by
    rintro _ (_ | ⟨_, _ | ⟨_, _ | ⟨_, ⟨⟩⟩⟩⟩) <;> exact fun _ => rfl
  obtain ⟨-, ⟨outcomes, -, messages, dispatches⟩, -, indifferent⟩ :=
    delivered_in_order receptive smooth
  refine ⟨by decide +kernel, ⟨outcomes, messages, dispatches⟩, (indifferent _ ?_).1⟩
  exact .cons ⟨rfl, fun _ => ⟨true, rfl⟩⟩ (.cons ⟨rfl, fun _ => ⟨true, rfl⟩⟩
    (.cons ⟨rfl, fun _ => ⟨true, rfl⟩⟩ .nil))

end DeviceAlerts.Monitor
