import DeviceAlerts.Proofs.Web.Service

/-! What the service lets into the stores. The checks are made in several places and differ between
new records and changes, but there is no way around them: whatever is requested, and whatever fails,
all stored records are tidy. A stored tag that does not compile has a regular expression that does
not. -/

namespace DeviceAlerts.Web

open DeviceAlerts.Form DeviceAlerts.Monitor DeviceAlerts.Text DeviceAlerts.Time

theorem stepwise_keepsTidy : Stepwise @KeepsTidy := by
  refine .of_calls keepsTidy_pure KeepsTidy.bind (fun {c} calm => keepsTidy_call ?_)
    (fun {c} tidy => keepsTidy_ask (c := .store c) tidy fun answer _ => keepsTidy_pure answer)
    (fun p otherwise => ?_) keepsTidy_classify
  · cases c with
    | store call => cases calm
    | rules call | devices call => cases call <;> first | rfl | cases calm
    | _ => rfl
  · cases p with
    | devices => exact keepsTidy_reloadDevices otherwise
    | rules => exact keepsTidy_reloadRules otherwise

/-! ### In service -/

theorem tidy_after (site : Site) {s : Setting} (h : s.site.Tidy) (occasions : List Occasion) :
    (Course.after (serve site) s occasions).site.Tidy := by
  have step : ∀ (s : Setting) (o : Occasion), s.site.Tidy → (serve site s o).1.site.Tidy :=
    fun _ o hs => (stepwise_act stepwise_keepsTidy site o).run hs
  exact Course.after_induction (serve site) step h occasions

/-- From empty stores on, whatever the service deals with and whatever fails, stored devices have
names and addresses that are not empty and have no white space around them, like their types, and
stored tags have names of this kind, a known comparison and severity as plain text and an index that
is not negative. A stored tag that does not compile is one whose regular expression does not. -/
theorem stored_tidy (site : Site) {s : Setting} (opened : s.site = .fresh .empty)
    (occasions : List Occasion) :
    let store := (Course.after (serve site) s occasions).site.store
    (∀ d ∈ store.devices.rows, d.name.IsLabel ∧ d.address.IsLabel ∧ d.type.IsTrimmed) ∧
    ∀ t ∈ store.tags.rows, t.name.IsLabel ∧
      (∃ symbol ∈ ["=", "<", ">"], t.condition.compareType = .text symbol) ∧
      (∃ severity ∈ ["info", "warning", "error", "critical"], t.severity = .text severity) ∧
      (∃ n : Nat, t.condition.arrayIndex = .int n) ∧
      ∀ obstacle, t.compile = .error obstacle →
        Condition.compileRegexp t.condition.regexp = .error obstacle := by
  intro store
  have tidy : store.Tidy := (tidy_after site (opened ▸ Monitor.Site.tidy_fresh) occasions).store
  refine ⟨fun d hd => ?_, fun t ht => ?_⟩
  · have hd := tidy.devices d hd
    exact ⟨hd.name, hd.address, hd.type⟩
  · have ht := tidy.tags t ht
    obtain ⟨type, htype⟩ := ht.compareType
    obtain ⟨severity, hseverity⟩ := ht.severity
    refine ⟨ht.name, ⟨_, ?_, htype⟩, ⟨_, ?_, hseverity⟩, ht.arrayIndex, fun obstacle hfails => ?_⟩
    · cases type with
      | equal => decide
      | threshold side => cases side <;> decide
    · cases severity <;> decide
    · obtain ⟨comparison, hcompile⟩ := ht.compile_eq
      rw [hcompile] at hfails
      cases hregexp : Condition.compileRegexp t.condition.regexp with
      | error found =>
        rw [hregexp] at hfails
        exact congrArg _ (Except.error.inj hfails)
      | ok pattern =>
        rw [hregexp] at hfails
        cases hfails

/-- White space is typed around everything, a change gives nothing for the severity, and the message
trips the hysteresis. -/
def carelessDay : List Occasion := [.start,
  .request (asking "POST" "/api/devices" (.value (.record [("name", .text " boiler "),
    ("deviceType", .text " "), ("address", .text "\t10.0.0.7 ")]))),
  .request (asking "POST" "/api/tags" (tagBody ".")),
  .request (asking "PATCH" "/api/tags/1" (.value (.record [("name", .text " warm "),
    ("severityLevel", .null)]))),
  .request (asking "PATCH" "/api/devices/1" (.value (.record [("name", .text "  ")]))),
  .request (asking "POST" "/api/messages/send_msg" (.value (.record [("message", .text "9"),
    ("message_type", .text "General"), ("component", .text "core"),
    ("address", .text "10.0.0.7")])))]

theorem stored_tidy_carelessDay :
    let store := (Course.after (serve ⟨"memory", none⟩) opening carelessDay).site.store
    store.devices.rows.map (fun d => (d.name, d.type, d.address)) =
      [(.text "boiler", .text "", .text "10.0.0.7")] ∧
    store.tags.rows.map (fun t => (t.name, t.condition.compareType)) =
      [(.text "warm", .text ">"), (.text "warm", .text "<")] ∧
    (∀ d ∈ store.devices.rows, d.name.IsLabel) ∧
    ∀ t ∈ store.tags.rows,
      ∃ severity ∈ ["info", "warning", "error", "critical"], t.severity = .text severity := by
  obtain ⟨devices, tags⟩ := @stored_tidy ⟨"memory", none⟩ opening rfl carelessDay
  exact ⟨by decide +kernel, by decide +kernel, fun d hd => (devices d hd).1,
    fun t ht => (tags t ht).2.2.1⟩

end DeviceAlerts.Web
