import DeviceAlerts.Proofs.Monitor.Effect
import DeviceAlerts.Proofs.Monitor.Tickets

/-! The duty of whoever handles a winner. The rules in force are looked at first; at most one tag is
created or deleted then, and the rules are refreshed afterwards. As long as the rules that were
looked at are those of the stored tags, and the tags that are read again are those that were left
behind, this ends with an effect of the winner on the tags. -/

namespace DeviceAlerts.Monitor

open DeviceAlerts.Time

/-- How far the handling of a winner has come; after a change, with the tags that it has led to. -/
inductive Stage
  | entered
  | informed
  | changed (after : List Tag)
  | ticketed (after : List Tag) (ticket : Int)
  | found (after : List Tag) (ticket : Int)
  | published (after : List Tag)

/-- What may be asked while a winner is handled, where `rows` are the tags that are stored at
first. -/
inductive Permitted (r : Rule) (rows : List Tag) : Stage → Call → Prop
  | read : Permitted r rows .entered (.rules .read)
  | delete (isClear : r.tag.isAllClear = true) (member : r.tag ∈ rows) :
      Permitted r rows .informed (.store (.deleteTag r.tag.id))
  | create {draft : TagDraft} (alarm : r.tag.alarm? = some draft)
      (absent : rows.any (·.clears draft.concern) = false) :
      Permitted r rows .informed (.store (.createTag draft))
  | issue {after : List Tag} : Permitted r rows (.changed after) (.rules .issue)
  | list {after : List Tag} {ticket : Int} :
      Permitted r rows (.ticketed after ticket) (.store .listTags)
  | publish {after : List Tag} {ticket : Int} {now : Moment} {book : Book}
      (built : Book.ofTags after now = .ok book) :
      Permitted r rows (.found after ticket) (.rules (.publish ticket book))
  | tell {stage : Stage} (notices : List Notice) : Permitted r rows stage (.tell notices)
  | now {stage : Stage} : Permitted r rows stage .now

def duty (r : Rule) (rows : List Tag) : Protocol monitor where
  State := Stage
  may := Permitted r rows
  reckons
    | .entered, .rules .read, (book : Book) => ∃ now, Book.ofTags rows now = .ok book
    | .informed, .store (.deleteTag _), answer => answer = .ok true
    | .informed, .store (.createTag draft), answer => ∃ id now, answer = .ok (draft.stored id now)
    | .ticketed after _, .store .listTags, answer => answer = .ok after
    | _, _, _ => True
  after
    | .entered, .rules .read, _ => .informed
    | .informed, .store (.deleteTag id), _ => .changed (rows.filter fun u => u.id ≠ id)
    | .informed, .store (.createTag _), .ok tag => .changed (rows ++ [tag])
    | .changed after, .rules .issue, (ticket : Int) => .ticketed after ticket
    | .ticketed after ticket, .store .listTags, _ => .found after ticket
    | .found after _, .rules (.publish _ _), _ => .published after
    | stage, _, _ => stage

/-- Nothing has been changed, or what has been changed is in force. -/
def done (r : Rule) (rows : List Tag) : Stage → Option Transition → Prop
  | .informed, transition => Effect rows ⟨r.tag, transition⟩ rows
  | .published after, transition => Effect rows ⟨r.tag, transition⟩ after
  | _, _ => False

variable {r : Rule} {rows after : List Tag}

theorem keeps_reloadRules (loadable : ∀ t ∈ after, t.Loadable) (otherwise : Notice) :
    Program.Keeps (duty r rows) (fun stage _ => stage = .published after)
      (reloadRules otherwise) (.changed after) := by
  have hrules := Compilation.rules_ofTags.mpr ⟨fun t ht => (loadable t ht).within, rfl⟩
  refine Program.keeps_bind.mpr ?_
  rw [refreshRules_eq]
  refine Program.keeps_ask.mpr ⟨.issue, fun (ticket : Int) _ => ?_⟩
  refine Program.keeps_ask.mpr ⟨.list, fun answer hanswer => ?_⟩
  obtain rfl : answer = .ok after := hanswer
  refine Program.keeps_ask.mpr ⟨.tell _, fun _ _ => ?_⟩
  rw [hrules]
  refine Program.keeps_ask.mpr ⟨.now, fun (now : Moment) _ => ?_⟩
  have hbook : Book.ofTags after now = .ok _ := Book.ofTags_eq_ok.mpr ⟨loadable, rfl⟩
  rw [hbook]
  exact Program.keeps_ask.mpr ⟨.publish hbook, fun _ _ => rfl⟩

/-- A rule of a tag that is stored or has been, whose number no other stored tag has. -/
structure Sincere (r : Rule) (rows : List Tag) : Prop where
  compiled : r.tag.compile = .ok r
  loadable : r.tag.Loadable
  self : (r.tag.deviceId == r.tag.deviceId) = true
  numbered : (r.tag.id == r.tag.id) = true
  known : ∀ t ∈ rows, (t.id == r.tag.id) = true → t = r.tag

theorem keeps_clear (sincere : Sincere r rows) (loadable : ∀ t ∈ rows, t.Loadable)
    (isClear : r.tag.isAllClear = true) (member : r.tag ∈ rows) :
    Program.Keeps (duty r rows) (fun stage transition => done r rows stage (some transition))
      (clear r) .informed := by
  have hunique : ∀ u ∈ rows, u.id = r.tag.id → u = r.tag := fun u hu hid =>
    sincere.known u hu (by rw [hid]; exact sincere.numbered)
  have heffect := Effect.deleted isClear member hunique
  refine Program.keeps_bind.mpr (Program.keeps_ask.mpr ⟨.delete isClear member, fun b hb => ?_⟩)
  obtain rfl : b = .ok true := hb
  refine Program.keeps_bind.mpr ?_
  refine (keeps_reloadRules (fun t ht => loadable t (List.mem_filter.mp ht).1) _).mono ?_
  rintro stage _ rfl
  exact heffect

theorem keeps_trip (sincere : Sincere r rows) (loadable : ∀ t ∈ rows, t.Loadable)
    (alarm : r.tag.alarm? = some r.recovery)
    (absent : rows.any (·.clears r.recovery.concern) = false) :
    Program.Keeps (duty r rows) (fun stage transition => done r rows stage (some transition))
      (trip r r.recovery) .informed := by
  refine Program.keeps_bind.mpr (Program.keeps_ask.mpr ⟨.create alarm absent, fun b hb => ?_⟩)
  obtain ⟨id, now, rfl⟩ : ∃ id now, b = .ok (r.recovery.stored id now) := hb
  have hloadable := r.loadable_append sincere.compiled sincere.loadable loadable id now
  refine Program.keeps_bind.mpr ((keeps_reloadRules hloadable _).mono ?_)
  rintro stage _ rfl
  exact Effect.created alarm absent id now

/-- Whoever handles a winner does their duty. -/
theorem keeps_handle (sincere : Sincere r rows) (loadable : ∀ t ∈ rows, t.Loadable) :
    Program.Keeps (duty r rows) (done r rows) (handle r) .entered := by
  refine Program.keeps_bind.mpr (Program.keeps_ask.mpr ⟨.read, fun book hbook => ?_⟩)
  obtain ⟨now, hbook⟩ : ∃ now, Book.ofTags rows now = .ok book := hbook
  have hplan := plan_eq hbook sincere.compiled sincere.self sincere.numbered sincere.known
  have hsame := Tag.isThreshold_of_compile sincere.compiled
  show Program.Keeps (duty r rows) (done r rows) (match plan r book with | _ => _) .informed
  by_cases hthreshold : r.isThreshold = true
  · simp only [hthreshold, Bool.not_true, Bool.false_eq_true, if_false] at hplan
    by_cases hrecovery : r.tag.isRecovery = true
    · have isClear : r.tag.isAllClear = true := by
        rw [Tag.isAllClear, hsame, hthreshold, hrecovery]
        rfl
      rw [if_pos hrecovery] at hplan
      by_cases member : r.tag ∈ rows
      · rw [if_pos member] at hplan
        rw [hplan]
        exact Program.keeps_bind.mpr (keeps_clear sincere loadable isClear member)
      · rw [if_neg member] at hplan
        rw [hplan]
        exact Effect.gone isClear member
    · have alarm := Rule.alarm?_of_compile sincere.compiled hthreshold
        (Bool.eq_false_iff.mpr hrecovery)
      rw [if_neg hrecovery] at hplan
      by_cases there : rows.any (fun t => t.clears r.recovery.concern) = true
      · rw [if_pos there] at hplan
        rw [hplan]
        exact Effect.armed alarm there
      · rw [if_neg there] at hplan
        rw [hplan]
        exact Program.keeps_bind.mpr
          (keeps_trip sincere loadable alarm (Bool.eq_false_iff.mpr there))
  · simp only [hthreshold, Bool.not_false, if_true] at hplan
    rw [hplan]
    exact Effect.ignored (hsame.trans (Bool.eq_false_iff.mpr hthreshold))

end DeviceAlerts.Monitor
