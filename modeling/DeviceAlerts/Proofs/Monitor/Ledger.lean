import DeviceAlerts.Proofs.Monitor.Duty
import DeviceAlerts.Proofs.Store.Tags

/-! The ledger of a site whose tags are changed by nobody but the one who handles winners. It keeps
the tags that have ever been stored and a mark that is set anew with every change of the tags. What
is published under a ticket above the mark are the rules of the tags that are stored now. -/

namespace DeviceAlerts

open DeviceAlerts.Monitor DeviceAlerts.Time

namespace Monitor

/-- Everybody who refreshes the rules; nobody in particular is the one who handles winners. -/
abbrev Attempts : Type := Option Nat → Option (Attempt .rules)

def Site.rows (site : Site) : List Tag := site.store.tags.rows

/-- A rule of a tag that has been stored. -/
structure Known (past : List Tag) (r : Rule) : Prop where
  member : r.tag ∈ past
  compiled : r.tag.compile = .ok r
  self : (r.tag.deviceId == r.tag.deviceId) = true

theorem Known.mono {past others : List Tag} {r : Rule} (h : Known past r)
    (kept : ∀ t ∈ past, t ∈ others) : Known others r :=
  ⟨kept r.tag h.member, h.compiled, h.self⟩

/-- What is true of a site at any time. -/
structure Ledger (site : Site) (attempts : Attempts) (past : List Tag) (mark : Int) : Prop where
  numbered : Store.Tags.Numbered ⟨site.store.tags.nextId, past⟩
  stored : ∀ t ∈ site.rows, t ∈ past
  loadable : ∀ t ∈ past, t.Loadable
  unrepeated : Unrepeated site.rows
  mark_le : mark ≤ site.rules.issued
  current : Watermark mark (fun found => found = site.contents .rules) (site.cache .rules) attempts
  known : ∃ base < site.rules.published,
    Watermark (p := .rules) base (fun (found : List Tag) => ∀ t ∈ found, t ∈ past)
      (site.cache .rules) attempts

/-- How the tags and the cache stand at a stage of the handling of a winner, where `before` are the
tags that were stored at first. -/
def Stage.Fits (before : List Tag) (site : Site) (attempts : Attempts) (mark : Int) : Stage → Prop
  | .entered | .informed => site.rows = before ∧ mark < site.rules.published
  | .changed after => site.rows = after
  | .ticketed after ticket =>
    site.rows = after ∧ mark < ticket ∧ attempts none = some ⟨ticket, none⟩
  | .found after ticket =>
    site.rows = after ∧ mark < ticket ∧ attempts none = some ⟨ticket, some after⟩
  | .published after => site.rows = after ∧ mark < site.rules.published

/-- Nobody else makes a difference to a stage who leaves the tags as they are. -/
theorem Stage.Fits.mono {before : List Tag} {site site' : Site} {attempts attempts' : Attempts}
    {mark : Int} {stage : Stage} (fits : stage.Fits before site attempts mark)
    (rows : site'.rows = site.rows) (published : site.rules.published ≤ site'.rules.published)
    (mine : attempts' none = attempts none) : stage.Fits before site' attempts' mark := by
  cases stage with
  | entered | informed | published after =>
    exact ⟨rows.trans fits.1, Int.lt_of_lt_of_le fits.2 published⟩
  | changed after => exact rows.trans fits
  | ticketed after ticket | found after ticket =>
    exact ⟨rows.trans fits.1, fits.2.1, mine.trans fits.2.2⟩

/-- Whoever is done leaves an effect, and rules in force that are newer than the mark. -/
theorem Stage.Fits.leave {before : List Tag} {site : Site} {attempts : Attempts} {mark : Int}
    {stage : Stage} {r : Rule} {transition : Option Transition}
    (fits : stage.Fits before site attempts mark) (ends : done r before stage transition) :
    Effect before ⟨r.tag, transition⟩ site.rows ∧ mark < site.rules.published := by
  cases stage with
  | informed =>
    obtain ⟨rfl, fresh⟩ := fits
    exact ⟨ends, fresh⟩
  | published after =>
    obtain ⟨rfl, fresh⟩ := fits
    exact ⟨ends, fresh⟩
  | entered | changed | ticketed | found => exact ends.elim

namespace Ledger

variable {site : Site} {attempts : Attempts} {past : List Tag} {mark : Int}

/-- The rules in force are those of the stored tags when they have been published since the mark. -/
theorem inForce (h : Ledger site attempts past mark) (fresh : mark < site.rules.published) :
    ∃ now, Book.ofTags site.rows now = .ok site.rules.snapshot := by
  obtain ⟨found, now, rfl, hbuild⟩ := h.current.snapshot_good fresh
  exact ⟨now, hbuild⟩

/-- Rules that are in force at any time are rules of tags that have been stored. -/
theorem known_of_rulesOf (h : Ledger site attempts past mark) {d : Datum} {r : Rule}
    (hr : r ∈ site.rules.snapshot.rulesOf d) : Known past r := by
  obtain ⟨base, hbase, w⟩ := h.known
  obtain ⟨found, now, hknown, hbuild⟩ := w.snapshot_good hbase
  obtain ⟨member, compiled, hdevice⟩ := (Book.mem_rulesOf hbuild).mp hr
  exact ⟨hknown _ member, compiled, PartialEquivBEq.trans hdevice (BEq.symm hdevice)⟩

theorem sincere (h : Ledger site attempts past mark) {r : Rule} (known : Known past r) :
    Sincere r site.rows where
  compiled := known.compiled
  loadable := h.loadable r.tag known.member
  self := known.self
  numbered := h.numbered.beq_id known.member
  known t ht hid := h.numbered.eq_of_beq_id (h.stored t ht) known.member hid

/-- Nobody has begun a refresh, and the rules of the stored tags are in force. -/
theorem start (numbered : site.store.tags.Numbered) (unrepeated : Unrepeated site.rows)
    (inOrder : site.rules.published ≤ site.rules.issued)
    (loaded : ∃ now, Book.ofTags site.rows now = .ok site.rules.snapshot) :
    Ledger site (fun _ => none) site.rows (site.rules.published - 1) := by
  obtain ⟨now, hbook⟩ := loaded
  have w : Watermark (site.rules.published - 1) (fun found => found = site.contents .rules)
      (site.cache .rules) (fun _ : Option Nat => none) :=
    ⟨inOrder, nofun, nofun, fun _ => ⟨_, now, rfl, hbook⟩⟩
  refine ⟨numbered, fun _ ht => ht, (Book.ofTags_eq_ok.mp hbook).1, unrepeated, by omega, w,
    _, by omega, w.mono ?_⟩
  rintro found rfl t ht
  exact ht

/-- Whatever is asked that does not change the store, under the name of anybody who refreshes. -/
theorem answer (h : Ledger site attempts past mark) {x : Chance} {c : Call} {i : Option Nat}
    (reads : ∀ call, c = .store call → call.isRead = true)
    (may : Part.rules.honesty.may (attempts i) c) :
    Ledger (site.answer x c).2
      (Function.update attempts i
        (Attempt.moved (attempts i) (Part.rules.move c (site.answer x c).1))) past mark := by
  obtain ⟨base, hbase, known⟩ := h.known
  have hstore := site.store_answer x reads
  have hcontents := site.contents_answer x reads .rules
  have hcache := site.cache_answer x c .rules
  have hissued := Cache.issued_le_moved (site.cache .rules) (Part.rules.move c (site.answer x c).1)
  have hpublished :=
    Cache.published_le_moved (site.cache .rules) (Part.rules.move c (site.answer x c).1)
  rw [← hcache] at hissued hpublished
  have hread : ∀ found, Part.rules.move c (site.answer x c).1 = .read found →
      found = site.contents .rules := fun found => site.read_answer x c .rules
  have hcurrent := h.current.answer may hread
  have hknown := known.answer may fun found hfound t ht =>
    h.stored t (by rw [hread found hfound] at ht; exact ht)
  constructor
  · rw [hstore]
    exact h.numbered
  · rw [Site.rows, hstore]
    exact h.stored
  · exact h.loadable
  · rw [Site.rows, hstore]
    exact h.unrepeated
  · exact Int.le_trans h.mark_le hissued
  · rw [hcontents]
    exact hcurrent
  · exact ⟨base, Int.lt_of_lt_of_le hbase hpublished, hknown⟩

/-- The tags are changed, and the mark is set anew. -/
theorem change (h : Ledger site attempts past mark) (tags : Store.Tags) {others : List Tag}
    (kept : ∀ t ∈ past, t ∈ others) (numbered : Store.Tags.Numbered ⟨tags.nextId, others⟩)
    (stored : ∀ t ∈ tags.rows, t ∈ others) (loadable : ∀ t ∈ others, t.Loadable)
    (unrepeated : Unrepeated tags.rows) :
    Ledger { site with store := { site.store with tags } } attempts others site.rules.issued := by
  obtain ⟨base, hbase, known⟩ := h.known
  exact ⟨numbered, stored, loadable, unrepeated, Int.le_refl _, h.current.reset _, base, hbase,
    known.mono fun found hfound t ht => kept t (hfound t ht)⟩

/-- A permitted question of the one who handles a winner is answered as their duty reckons, and
leaves the ledger in order. -/
theorem act (h : Ledger site attempts past mark) {r : Rule} {before : List Tag} {stage : Stage}
    (fits : stage.Fits before site attempts mark) (known : Known past r) {x : Chance}
    (calm : x.fault = none) {c : Call} (may : Permitted r before stage c) :
    (duty r before).reckons stage c (site.answer x c).1 ∧
      ∃ attempts' past' mark', Ledger (site.answer x c).2 attempts' past' mark' ∧
        ((duty r before).after stage c (site.answer x c).1).Fits before (site.answer x c).2
          attempts' mark' ∧
        (∀ t ∈ past, t ∈ past') ∧ ∀ n, attempts' (some n) = attempts (some n) := by
  cases may with
  | read =>
    obtain ⟨rfl, fresh⟩ := fits
    exact ⟨h.inForce fresh, attempts, past, mark, h, ⟨rfl, fresh⟩, fun _ ht => ht, fun _ => rfl⟩
  | delete isClear hmember =>
    obtain ⟨rfl, _⟩ := fits
    obtain ⟨i, _, hid⟩ := h.numbered.given r.tag known.member
    have hdelete := Store.Tags.delete_stored hid hmember
    have hchange := h.change
      { site.store.tags with rows := site.rows.filter fun u => u.id ≠ r.tag.id }
      (fun _ ht => ht) h.numbered (fun t ht => h.stored t (List.mem_filter.mp ht).1) h.loadable
      (h.unrepeated.filter _)
    simp only [Site.answer, calm, Store.perform, hdelete]
    exact ⟨rfl, attempts, past, _, hchange, rfl, fun _ ht => ht, fun _ => rfl⟩
  | create alarm absent =>
    obtain ⟨rfl, _⟩ := fits
    obtain rfl := Rule.eq_recovery_of_alarm? known.compiled alarm
    have hloadable := r.loadable_append known.compiled (h.loadable r.tag known.member) h.loadable
      site.store.tags.nextId x.now
    have hchange := h.change (site.store.tags.create x.now r.recovery).2
      (fun _ ht => List.mem_append_left _ ht) (h.numbered.create x.now r.recovery)
      (fun t ht => List.mem_append.mpr ((List.mem_append.mp ht).imp_left (h.stored t)))
      hloadable (h.unrepeated.append absent _ _)
    simp only [Site.answer, calm, Store.perform]
    exact ⟨⟨_, _, rfl⟩, attempts, _, _, hchange, rfl, fun _ ht => List.mem_append_left _ ht,
      fun _ => rfl⟩
  | issue =>
    obtain rfl : site.rows = _ := fits
    have hnext := h.answer (i := none) (x := x) (c := .rules .issue)
      (by rintro _ ⟨⟩) (by rintro _ _ ⟨⟩)
    refine ⟨trivial, _, past, mark, hnext, ⟨rfl, ?_, Function.update_self _ _ _⟩,
      fun _ ht => ht, fun n => Function.update_of_ne (Option.some_ne_none n) _ _⟩
    have := h.mark_le
    show mark < site.rules.issued + 1
    omega
  | @list _ ticket =>
    obtain ⟨rfl, above, hattempt⟩ := fits
    have hanswer : site.answer x (.store .listTags) = (.ok site.rows, site) := by
      simp only [Site.answer, calm, Store.perform]
      rfl
    have hnext := h.answer (i := none) (x := x) (c := .store .listTags)
      (by rintro _ ⟨⟩; rfl) (by rintro _ _ ⟨⟩)
    rw [hanswer] at hnext ⊢
    refine ⟨rfl, _, past, mark, hnext, ⟨rfl, above, ?_⟩, fun _ ht => ht,
      fun n => Function.update_of_ne (Option.some_ne_none n) _ _⟩
    rw [Function.update_self, hattempt]
    rfl
  | @publish _ ticket now book built =>
    obtain ⟨rfl, above, hattempt⟩ := fits
    have hnext := h.answer (i := none) (x := x) (c := .rules (.publish ticket book))
      (by rintro _ ⟨⟩) (by rintro _ _ ⟨⟩; exact ⟨site.rows, now, hattempt, built⟩)
    refine ⟨trivial, _, past, mark, hnext, ⟨rfl, ?_⟩, fun _ ht => ht,
      fun n => Function.update_of_ne (Option.some_ne_none n) _ _⟩
    exact Int.lt_of_lt_of_le above (Cache.le_moved_published (p := .rules) _ ticket book)
  | tell notices =>
    exact ⟨by cases stage <;> trivial, attempts, past, mark, h, by cases stage <;> exact fits,
      fun _ ht => ht, fun _ => rfl⟩
  | now =>
    exact ⟨by cases stage <;> trivial, attempts, past, mark, h, by cases stage <;> exact fits,
      fun _ ht => ht, fun _ => rfl⟩

end Ledger

end Monitor

end DeviceAlerts
