import DeviceAlerts.Monitor.Refresh
import DeviceAlerts.Proofs.Monitor.Site
import DeviceAlerts.Proofs.Protocol

/-! Refreshes as trees of their questions. Every question is seen, with what comes of each answer,
so what a refresh does under any surroundings can be read off. -/

namespace DeviceAlerts.Monitor

open DeviceAlerts.Time

/-- What a refresh does with a ticket and the tags that it read under it. -/
def publishRules (ticket : Int) (tags : List Tag) : Activity (Except Failure Book) :=
  .ask (Call.tell (Compilation.ofTags tags).notices) fun _ =>
    match (Compilation.ofTags tags).rules with
    | .error limit => .done (.error (.limit limit))
    | .ok _ =>
      .ask Call.now fun (now : Moment) =>
        match Book.ofTags tags now with
        | .error failure => .done (.error failure)
        | .ok book =>
          .ask (Call.rules (.publish ticket book)) fun (answer : Book × Bool) =>
            .done (.ok answer.1)

theorem refreshRules_eq : refreshRules =
    .ask (Call.rules .issue) fun (ticket : Int) =>
      .ask (Call.store .listTags) fun
        | .error failure => .done (.error failure)
        | .ok (tags : List Tag) => publishRules ticket tags := by
  refine congrArg (Program.ask _) (funext fun (ticket : Int) => ?_)
  refine congrArg (Program.ask _) (funext fun answer => ?_)
  cases answer with
  | error failure => rfl
  | ok tags =>
    refine congrArg (Program.ask _) (funext fun _ => ?_)
    cases hrules : (Compilation.ofTags tags).rules with
    | error limit => rfl
    | ok rules =>
      refine congrArg (Program.ask _) (funext fun (now : Moment) => ?_)
      have hbuild :
          Book.ofTags tags now = (Book.ofRules rules tags.length now).mapError .misuse := by
        simp only [Book.ofTags, hrules]
      rw [hbuild]
      simp only [Program.bind]
      cases Book.ofRules rules tags.length now with
      | error _ => rfl
      | ok book => rfl


/-- What a refresh does with a ticket and the devices that it read under it. -/
def publishDevices (ticket : Int) (found : List Device) : Activity (Except Failure Directory) :=
  .ask (Call.tell (Directory.notices found)) fun _ =>
    .ask Call.now fun (now : Moment) =>
      match (Directory.ofDevices found now).mapError Failure.misuse with
      | .error failure => .done (.error failure)
      | .ok directory =>
        .ask (Call.devices (.publish ticket directory)) fun (answer : Directory × Bool) =>
          .done (.ok answer.1)

theorem refreshDevices_eq : refreshDevices =
    .ask (Call.devices .issue) fun (ticket : Int) =>
      .ask (Call.store .listDevices) fun
        | .error failure => .done (.error failure)
        | .ok (found : List Device) => publishDevices ticket found := by
  refine congrArg (Program.ask _) (funext fun (ticket : Int) => ?_)
  refine congrArg (Program.ask _) (funext fun answer => ?_)
  cases answer with
  | error failure => rfl
  | ok found =>
    refine congrArg (Program.ask _) (funext fun _ => ?_)
    refine congrArg (Program.ask _) (funext fun (now : Moment) => ?_)
    simp only [Program.bind]
    cases Directory.ofDevices found now with
    | error _ => rfl
    | ok directory => rfl

/-! ### Refreshes only read -/

/-- Of the store, only reads may be asked for. -/
def perusal : Protocol monitor where
  State := Unit
  may _ c := ∀ call, c = Call.store call → call.isRead = true
  reckons _ _ _ := True
  after _ _ _ := ()

def Peruses {α : Type} (program : Activity α) : Prop :=
  Program.Keeps perusal (fun _ _ => True) program ()

theorem peruses_ask {α : Type} {c : Call} {next : c.Answer → Activity α}
    (may : ∀ call, c = Call.store call → call.isRead = true) (rest : ∀ b, Peruses (next b)) :
    Peruses (.ask c next) :=
  ⟨may, fun b _ => rest b⟩

theorem peruses_pure {α : Type} (a : α) : Peruses (pure a : Activity α) := trivial

theorem Peruses.bind {α β : Type} {first : Activity α} {rest : α → Activity β}
    (h : Peruses first) (later : ∀ a, Peruses (rest a)) : Peruses (first >>= rest) :=
  Program.keeps_bind.mpr (Program.Keeps.mono h fun _ a _ => later a)

theorem peruses_tellOne (n : Notice) : Peruses (tellOne n) := peruses_ask nofun peruses_pure

theorem peruses_publishRules (ticket : Int) (tags : List Tag) :
    Peruses (publishRules ticket tags) := by
  refine peruses_ask nofun fun _ => ?_
  cases (Compilation.ofTags tags).rules with
  | error limit => exact trivial
  | ok _ =>
    refine peruses_ask nofun fun (now : Moment) => ?_
    cases Book.ofTags tags now with
    | error failure => exact trivial
    | ok book => exact peruses_ask nofun fun _ => trivial

theorem peruses_publishDevices (ticket : Int) (found : List Device) :
    Peruses (publishDevices ticket found) := by
  refine peruses_ask nofun fun _ => peruses_ask nofun fun (now : Moment) => ?_
  cases (Directory.ofDevices found now).mapError Failure.misuse with
  | error failure => exact trivial
  | ok directory => exact peruses_ask nofun fun _ => trivial

theorem peruses_refreshRules : Peruses refreshRules := by
  rw [refreshRules_eq]
  refine peruses_ask nofun fun (ticket : Int) => peruses_ask ?_ fun answer => ?_
  · rintro _ ⟨⟩
    rfl
  · cases answer with
    | error failure => exact trivial
    | ok tags => exact peruses_publishRules ticket tags

theorem peruses_reloadRules (otherwise : Notice) : Peruses (reloadRules otherwise) := by
  refine peruses_refreshRules.bind fun answer => ?_
  cases answer with
  | error failure => exact peruses_tellOne otherwise
  | ok book => exact peruses_pure ()

theorem peruses_refreshDevices : Peruses refreshDevices := by
  rw [refreshDevices_eq]
  refine peruses_ask nofun fun (ticket : Int) => peruses_ask ?_ fun answer => ?_
  · rintro _ ⟨⟩
    rfl
  · cases answer with
    | error failure => exact trivial
    | ok found => exact peruses_publishDevices ticket found

/-- A read leaves the store as it is. -/
theorem Site.store_answer (s : Site) (x : Chance) {c : Call}
    (h : ∀ call, c = .store call → call.isRead = true) : (s.answer x c).2.store = s.store := by
  cases c with
  | store call =>
    have hread := h call rfl
    simp only [answer]
    cases x.fault with
    | some failure => rfl
    | none => cases call <;> first | rfl | cases hread
  | _ => rfl

theorem Site.contents_answer (s : Site) (x : Chance) {c : Call}
    (h : ∀ call, c = .store call → call.isRead = true) (p : Part) :
    (s.answer x c).2.contents p = s.contents p := by
  have hstore := s.store_answer x h
  cases p with
  | devices => exact congrArg (fun store => store.devices.rows) hstore
  | rules => exact congrArg (fun store => store.tags.rows) hstore

end DeviceAlerts.Monitor

namespace DeviceAlerts.Part

open DeviceAlerts.Monitor

def refresh : (p : Part) → Activity (Except Failure p.Snapshot)
  | devices => refreshDevices
  | rules => refreshRules

theorem peruses_refresh (p : Part) : Peruses p.refresh := by
  cases p with
  | devices => exact peruses_refreshDevices
  | rules => exact peruses_refreshRules

end DeviceAlerts.Part
