import DeviceAlerts.Monitor.Classify
import DeviceAlerts.Proofs.Directory
import DeviceAlerts.Proofs.Form.Tidy
import DeviceAlerts.Proofs.Monitor.Setting

/-! Tidy sites. Nobody but the activities stands between the surroundings and the stores, so they
have to hand over tidy records only, and publish only what can be made of such. A site is then tidy
for good, whatever fails on the way. Recovery tags are made from rules in force, whose tags are
tidy in a tidy site, so they need no check of their own. -/

namespace DeviceAlerts

open DeviceAlerts.Store DeviceAlerts.Time

/-! ### Stores -/

/-- What is handed over to the store is tidy. -/
def Store.Call.Tidy : Call → Prop
  | createDevice draft => draft.Tidy
  | updateDevice _ changes => ∀ c ∈ changes, c.Tidy
  | createTag draft => draft.Tidy
  | updateTag _ changes => ∀ c ∈ changes, c.Tidy
  | _ => True

/-- Tidy records, and devices that can be told apart. -/
structure Store.Tidy (s : Store) : Prop where
  apart : s.devices.Apart
  devices : ∀ d ∈ s.devices.rows, d.Tidy
  tags : ∀ t ∈ s.tags.rows, t.Tidy

namespace Store

theorem tidy_empty : empty.Tidy := ⟨Devices.apart_empty, nofun, nofun⟩

theorem tidy_replaced {α : Type} {Good : α → Prop} {rows : List α} {same : α → Prop}
    [DecidablePred same] {new : α} (all : ∀ r ∈ rows, Good r) (hnew : Good new) :
    ∀ r ∈ rows.map (fun r => if same r then new else r), Good r := by
  refine List.forall_mem_map.mpr fun r hr => ?_
  split
  · exact hnew
  · exact all r hr

theorem Tidy.updateDevice {s : Store} (h : s.Tidy) (now : Moment) (id : Datum)
    {changes : List DeviceChange} (tidy : ∀ c ∈ changes, c.Tidy) :
    ∀ d ∈ (s.devices.update now id changes).2.rows, d.Tidy := by
  rcases s.devices.update_cases now id changes with ⟨same, -⟩ | ⟨old, new, stored, revised, updated⟩
  · rw [same]
    exact h.devices
  · obtain ⟨changed, made, rfl, -⟩ := Devices.of_revise revised
    have hchanged := (h.devices old stored).changeAll tidy made
    rw [updated]
    exact tidy_replaced h.devices { hchanged with }

theorem Tidy.updateTag {s : Store} (h : s.Tidy) (now : Moment) (id : Datum)
    {changes : List TagChange} (tidy : ∀ c ∈ changes, c.Tidy) :
    ∀ t ∈ (s.tags.update now id changes).2.rows, t.Tidy := by
  rcases s.tags.update_cases now id changes with ⟨same, -⟩ | ⟨old, stored, updated⟩
  · rw [same]
    exact h.tags
  · have hchanged := (h.tags old stored).applyAll tidy
    rw [updated]
    exact tidy_replaced h.tags { hchanged with }

theorem Tidy.perform {s : Store} (h : s.Tidy) (now : Moment) {c : Call} (tidy : c.Tidy) :
    (s.perform now c).2.Tidy := by
  have apart := (moves_perform s now c).apart h.apart
  cases c with
  | createDevice draft =>
    refine ⟨apart, ?_, h.tags⟩
    show ∀ d ∈ (s.devices.create now draft).2.rows, d.Tidy
    rcases s.devices.create_cases now draft with ⟨_, made⟩ | ⟨_, made⟩ | ⟨people, -, made⟩ <;>
      rw [made]
    · exact h.devices
    · exact h.devices
    · intro d hd
      rcases List.mem_append.mp hd with hd | hd
      · exact h.devices d hd
      · obtain rfl := List.mem_singleton.mp hd
        exact ⟨tidy.name, tidy.type, tidy.address⟩
  | updateDevice id changes => exact ⟨apart, h.updateDevice now id tidy, h.tags⟩
  | deleteDevice id =>
    refine ⟨apart, fun d hd => h.devices d ?_, h.tags⟩
    change d ∈ (s.devices.delete id).2.rows at hd
    unfold Devices.delete at hd
    cases hid : id.readInteger with
    | error failure =>
      rw [hid] at hd
      exact hd
    | ok i =>
      rw [hid] at hd
      exact (List.mem_filter.mp hd).1
  | createTag draft =>
    refine ⟨h.apart, h.devices, fun t ht => ?_⟩
    rcases List.mem_append.mp ht with ht | ht
    · exact h.tags t ht
    · obtain rfl := List.mem_singleton.mp ht
      exact tidy
  | updateTag id changes => exact ⟨h.apart, h.devices, h.updateTag now id tidy⟩
  | deleteTag id =>
    exact ⟨h.apart, h.devices, fun t ht => h.tags t ((s.tags.sublist_delete id).subset ht)⟩
  | _ => exact ⟨h.apart, h.devices, h.tags⟩

end Store

/-! ### Snapshots -/

/-- The rules in force are those of tidy tags. -/
def Book.Tidy (b : Book) : Prop := ∀ d, ∀ r ∈ b.rulesOf d, r.tag.Tidy

theorem Book.tidy_empty : empty.Tidy := nofun

theorem Book.tidy_ofTags {tags : List Tag} (tidy : ∀ t ∈ tags, t.Tidy) {now : Moment} {book : Book}
    (h : ofTags tags now = .ok book) : book.Tidy :=
  fun _ r hr => tidy r.tag ((mem_rulesOf h).mp hr).1

/-- Both tables of the directory hold the same devices. -/
def Directory.Coherent (d : Directory) : Prop := ∃ devices, d.Lists devices

theorem Directory.coherent_ofDevices {s : Devices} (h : s.Apart) {now : Moment}
    {directory : Directory} (made : ofDevices s.rows now = .ok directory) :
    directory.Coherent := by
  unfold ofDevices at made
  cases hkeys : s.rows.mapM checkKeys with
  | error fault =>
    rw [hkeys] at made
    cases made
  | ok keys =>
    rw [hkeys] at made
    cases made
    exact ⟨s.rows, lists_table h now⟩

namespace Monitor

/-! ### Questions and answers -/

/-- What is stored or published by a question is tidy. -/
def Call.Tidy : Call → Prop
  | store c => c.Tidy
  | rules (.publish _ book) => book.Tidy
  | devices (.publish _ directory) => directory.Coherent
  | _ => True

/-- Whether a question neither hands over a record nor publishes anything. -/
def Call.isPlain : Call → Bool
  | store (.createDevice _) | store (.updateDevice _ _) | store (.createTag _)
  | store (.updateTag _ _) | rules (.publish _ _) | devices (.publish _ _) => false
  | _ => true

theorem Call.tidy_of_isPlain {c : Call} (plain : c.isPlain = true) : c.Tidy := by
  cases c with
  | store call =>
    cases call with
    | createDevice _ | updateDevice _ _ | createTag _ | updateTag _ _ => cases plain
    | _ => exact trivial
  | rules call | devices call =>
    cases call with
    | publish _ _ => cases plain
    | _ => exact trivial
  | _ => exact trivial

/-- What is answered from the stores or the rules in force is tidy. -/
def Call.TidyAnswer : (c : Call) → c.Answer → Prop
  | store .listTags, (.ok tags : Except Failure (List Tag)) => ∀ t ∈ tags, t.Tidy
  | store .listDevices, (.ok found : Except Failure (List Device)) =>
    ∃ s : Devices, s.Apart ∧ s.rows = found
  | rules .read, (book : Book) => book.Tidy
  | _, _ => True

def tidiness : Protocol monitor where
  State := Unit
  may _ c := c.Tidy
  reckons _ c a := c.TidyAnswer a
  after _ _ _ := ()

/-- An activity that keeps a tidy site tidy. -/
def KeepsTidy {α : Type} (activity : Activity α) : Prop :=
  Program.Keeps tidiness (fun _ _ => True) activity ()

/-! ### Sites -/

structure Site.Tidy (s : Site) : Prop where
  store : s.store.Tidy
  rules : s.rules.snapshot.Tidy
  directory : s.directory.snapshot.Coherent

theorem Site.tidy_fresh : (Site.fresh .empty).Tidy :=
  ⟨tidy_empty, Book.tidy_empty, [], Directory.lists_empty⟩

theorem Site.Tidy.answer {s : Site} (h : s.Tidy) (x : Chance) {c : Call} (tidy : c.Tidy) :
    c.TidyAnswer (s.answer x c).1 ∧ (s.answer x c).2.Tidy := by
  cases c with
  | store call =>
    cases hfault : x.fault with
    | some failure =>
      simp only [Site.answer, hfault]
      exact ⟨by cases call <;> exact trivial, h⟩
    | none =>
      simp only [Site.answer, hfault]
      refine ⟨?_, h.store.perform x.now tidy, h.rules, h.directory⟩
      cases call with
      | listTags => exact h.store.tags
      | listDevices => exact ⟨s.store.devices, h.store.apart, rfl⟩
      | _ => exact trivial
  | rules call =>
    cases call with
    | read => exact ⟨h.rules, h⟩
    | generation => exact ⟨trivial, h⟩
    | issue => exact ⟨trivial, h.store, h.rules, h.directory⟩
    | publish ticket book =>
      refine ⟨trivial, h.store, ?_, h.directory⟩
      show (s.rules.publish ticket book).2.snapshot.Tidy
      unfold Cache.publish
      split
      · exact h.rules
      · exact tidy
  | devices call =>
    cases call with
    | read | generation => exact ⟨trivial, h⟩
    | issue => exact ⟨trivial, h.store, h.rules, h.directory⟩
    | publish ticket directory =>
      refine ⟨trivial, h.store, h.rules, ?_⟩
      show (s.directory.publish ticket directory).2.snapshot.Coherent
      unfold Cache.publish
      split
      · exact h.directory
      · exact tidy
  | _ => exact ⟨trivial, h⟩

section

variable {α β : Type}

theorem KeepsTidy.run {activity : Activity α} (h : KeepsTidy activity) {s : Setting}
    (start : s.site.Tidy) : (s.run activity).2.site.Tidy := by
  have step : ∀ (_ : tidiness.State) (s : Setting) (c : Call), s.site.Tidy → c.Tidy →
      c.TidyAnswer (Setting.answer c s).1 ∧ (Setting.answer c s).2.site.Tidy :=
    fun _ s c hs tidy => hs.answer (s.chances 0) tidy
  obtain ⟨-, -, hlast⟩ := Program.Keeps.run step h start
  exact hlast

theorem keepsTidy_pure (a : α) : KeepsTidy (pure a : Activity α) := trivial

theorem KeepsTidy.bind {first : Activity α} {rest : α → Activity β} (h : KeepsTidy first)
    (later : ∀ a, KeepsTidy (rest a)) : KeepsTidy (first >>= rest) :=
  Program.keeps_bind.mpr (Program.Keeps.mono h fun _ a _ => later a)

/-- A question after which only a tidy answer has to be dealt with. -/
theorem keepsTidy_ask {c : Call} (tidy : c.Tidy) {next : c.Answer → Activity α}
    (rest : ∀ a, c.TidyAnswer a → KeepsTidy (next a)) : KeepsTidy (.ask c next) :=
  ⟨tidy, rest⟩

theorem keepsTidy_plain {c : Call} (plain : c.isPlain = true) {next : c.Answer → Activity α}
    (rest : ∀ a, c.TidyAnswer a → KeepsTidy (next a)) : KeepsTidy (.ask c next) :=
  keepsTidy_ask (Call.tidy_of_isPlain plain) rest

theorem keepsTidy_call {c : Call} (plain : c.isPlain = true) : KeepsTidy (ask c) :=
  keepsTidy_plain plain fun a _ => keepsTidy_pure a

end

/-! ### Refreshes -/

theorem keepsTidy_publishRules (ticket : Int) {tags : List Tag} (tidy : ∀ t ∈ tags, t.Tidy) :
    KeepsTidy (publishRules ticket tags) := by
  refine keepsTidy_plain rfl fun _ _ => ?_
  cases (Compilation.ofTags tags).rules with
  | error limit => exact keepsTidy_pure _
  | ok rules =>
    refine keepsTidy_plain rfl fun (now : Moment) _ => ?_
    cases hbook : Book.ofTags tags now with
    | error failure => exact keepsTidy_pure _
    | ok book =>
      refine keepsTidy_ask (c := .rules (.publish ticket book)) ?_ fun _ _ => keepsTidy_pure _
      exact Book.tidy_ofTags tidy hbook

theorem keepsTidy_refreshRules : KeepsTidy refreshRules := by
  rw [refreshRules_eq]
  refine keepsTidy_plain rfl fun (ticket : Int) _ => keepsTidy_plain rfl fun answer tidy => ?_
  cases answer with
  | error failure => exact keepsTidy_pure _
  | ok tags => exact keepsTidy_publishRules ticket tidy

theorem keepsTidy_refreshDevices : KeepsTidy refreshDevices := by
  rw [refreshDevices_eq]
  refine keepsTidy_plain rfl fun (ticket : Int) _ => keepsTidy_plain rfl fun answer tidy => ?_
  cases answer with
  | error failure => exact keepsTidy_pure _
  | ok found =>
    obtain ⟨s, apart, rfl⟩ := tidy
    refine keepsTidy_plain rfl fun _ _ => keepsTidy_plain rfl fun (now : Moment) _ => ?_
    cases hmade : Directory.ofDevices s.rows now with
    | error fault => exact keepsTidy_pure _
    | ok directory =>
      have coherent := Directory.coherent_ofDevices apart hmade
      exact keepsTidy_ask (c := .devices (.publish ticket directory)) coherent fun _ _ =>
        keepsTidy_pure _

theorem keepsTidy_reloadRules (otherwise : Notice) : KeepsTidy (reloadRules otherwise) := by
  refine keepsTidy_refreshRules.bind fun answer => ?_
  cases answer with
  | error failure => exact keepsTidy_call rfl
  | ok book => exact keepsTidy_pure _

theorem keepsTidy_reloadDevices (otherwise : Notice) : KeepsTidy (reloadDevices otherwise) := by
  refine keepsTidy_refreshDevices.bind fun answer => ?_
  cases answer with
  | error failure => exact keepsTidy_call rfl
  | ok directory => exact keepsTidy_pure _

/-! ### Messages -/

theorem keepsTidy_clear (r : Rule) : KeepsTidy (clear r) := by
  refine (keepsTidy_call rfl).bind fun answer => ?_
  cases answer with
  | error failure => exact (keepsTidy_call rfl).bind fun _ => keepsTidy_pure _
  | ok found =>
    have hreload : KeepsTidy (reloadRules .transitionNotLoaded >>= fun _ =>
        pure (if found then Transition.deleted else .alreadyCleared)) :=
      (keepsTidy_reloadRules _).bind fun _ => keepsTidy_pure _
    cases found with
    | true => exact hreload
    | false => exact (keepsTidy_call rfl).bind fun _ => hreload

theorem keepsTidy_trip (r : Rule) {draft : TagDraft} (tidy : draft.Tidy) :
    KeepsTidy (trip r draft) := by
  refine keepsTidy_ask (c := .store (.createTag draft)) tidy fun answer _ => ?_
  cases answer with
  | error failure => exact (keepsTidy_call rfl).bind fun _ => keepsTidy_pure _
  | ok tag => exact (keepsTidy_reloadRules _).bind fun _ => keepsTidy_pure _

theorem keepsTidy_handle {r : Rule} (tidy : r.tag.Tidy) : KeepsTidy (handle r) := by
  refine (keepsTidy_call rfl).bind fun book => ?_
  cases hplan : plan r book with
  | ignore | settled => exact keepsTidy_pure _
  | delete id => exact (keepsTidy_clear r).bind fun _ => keepsTidy_pure _
  | create draft =>
    obtain ⟨rfl, -⟩ := of_plan_create hplan
    exact (keepsTidy_trip r tidy.recovery).bind fun _ => keepsTidy_pure _

/-- The winner is one of the rules in force. -/
theorem keepsTidy_classify (m : Message) : KeepsTidy (classify m) := by
  unfold classify classifyWith
  refine keepsTidy_plain rfl fun book tidy => ?_
  cases m.deviceId.asKey with
  | error fault => exact keepsTidy_pure _
  | ok deviceId =>
    refine keepsTidy_plain rfl fun _ _ => ?_
    cases hwinner : (scan (body m) (book.rulesOf deviceId)).2 with
    | none => exact keepsTidy_pure _
    | some r =>
      dsimp only
      have hr := tidy deviceId r (mem_of_winner hwinner)
      split
      · exact (keepsTidy_handle hr).bind fun _ => keepsTidy_pure _
      · exact keepsTidy_pure _

end Monitor

end DeviceAlerts
