import DeviceAlerts.Proofs.Course
import DeviceAlerts.Proofs.Monitor.Tickets

/-! Refreshes that overlap. Any number of refreshes of both caches take turns, question by question
and in any order, while the store is changed at any time. Once a refresh has published, whether
its snapshot was taken or discarded, the snapshot in place comes from a read that was made after
the ticket of that refresh was issued. -/

namespace DeviceAlerts

open DeviceAlerts.Monitor DeviceAlerts.Time

/-- A site with a refresh for every number; most of them may never take a turn. -/
structure Overlap (parts : Nat → Part) where
  site : Site
  refreshes : (i : Nat) → Activity (Except Failure (parts i).Snapshot)

namespace Overlap

variable {parts : Nat → Part}

/-- Who goes on next: a refresh, with what the surroundings make of its question, or somebody else
who leaves the store in any state. -/
inductive Choice
  | ask (i : Nat) (x : Chance)
  | change (store : Store)

inductive Event
  | exchange (c : Call) (b : c.Answer)
  | change
  | idle

def Event.move (p : Part) : Event → p.Move
  | exchange c b => p.move c b
  | change | idle => .other

/-- A refresh that has ended asks nothing any more. -/
def next (s : Overlap parts) : Choice → Overlap parts × Event
  | .ask i x =>
    match s.refreshes i with
    | .done _ => (s, .idle)
    | .ask c rest =>
      (⟨(s.site.answer x c).2, Function.update s.refreshes i (rest (s.site.answer x c).1)⟩,
        .exchange c (s.site.answer x c).1)
  | .change store => ({ s with site := { s.site with store } }, .change)

/-- Nothing is cached yet and no refresh has begun. -/
def start (parts : Nat → Part) (store : Store) : Overlap parts where
  site := .fresh store
  refreshes i := (parts i).refresh

/-! ### Reads after a mark -/

variable {p : Part} {mark : Int} {good : p.Contents → Prop} {s : Overlap parts}

/-- The refreshes are honest, and their reads after the mark are good. -/
def Sound (mark : Int) (good : p.Contents → Prop) (s : Overlap parts) : Prop :=
  ∃ attempts : Nat → Option (Attempt p), Watermark mark good (s.site.cache p) attempts ∧
    ∀ i, p.Honest (s.refreshes i) (attempts i)

theorem sound_start (p : Part) (store : Store) (good : p.Contents → Prop) :
    Sound 0 good (start parts store) := by
  refine ⟨fun _ => none, ⟨?_, nofun, nofun, fun above => ?_⟩, fun i => ?_⟩
  · cases p <;> exact Int.le_refl _
  · cases p <;> exact absurd above (Int.lt_irrefl 0)
  · exact Part.honest_refresh p (parts i) none

theorem Sound.reset (h : Sound mark good s) (other : p.Contents → Prop) :
    Sound (s.site.cache p).issued other s :=
  let ⟨attempts, watermark, honest⟩ := h
  ⟨attempts, watermark.reset other, honest⟩

theorem Sound.next (h : Sound mark good s) (choice : Choice)
    (reads : ∀ found, (s.next choice).2.move p = .read found → good found) :
    Sound mark good (s.next choice).1 := by
  obtain ⟨attempts, watermark, honest⟩ := h
  cases choice with
  | change store =>
    refine ⟨attempts, ?_, honest⟩
    cases p <;> exact watermark
  | ask i x =>
    simp only [Overlap.next] at reads ⊢
    cases hi : s.refreshes i with
    | done a => exact ⟨attempts, watermark, honest⟩
    | ask c rest =>
      rw [hi] at reads
      have hkeeps := honest i
      rw [hi] at hkeeps
      refine ⟨_, watermark.answer (i := i) hkeeps.1 reads, fun j => ?_⟩
      by_cases hj : j = i
      · subst hj
        simp only [Function.update_self]
        exact hkeeps.2 _ trivial
      · simp only [Function.update_of_ne hj]
        exact honest j

theorem Sound.after (h : Sound mark good s) {choices : List Choice}
    (reads : ∀ e ∈ Course.events Overlap.next s choices, ∀ found,
      e.move p = .read found → good found) :
    Sound mark good (Course.after Overlap.next s choices) := by
  induction choices generalizing s with
  | nil => exact h
  | cons choice rest ih =>
    rw [Course.events_cons, List.forall_mem_cons] at reads
    exact ih (h.next choice reads.1) reads.2

theorem Sound.snapshot (h : Sound mark good s) (above : mark < (s.site.cache p).published) :
    ∃ found now, good found ∧ p.build found now = .ok (s.site.cache p).snapshot :=
  let ⟨_, watermark, _⟩ := h
  watermark.snapshot_good above

/-! ### The cache and the store along the way -/

theorem cache_next (s : Overlap parts) (choice : Choice) (p : Part) :
    (s.next choice).1.site.cache p = (s.site.cache p).moved ((s.next choice).2.move p) := by
  cases choice with
  | change store => cases p <;> rfl
  | ask i x =>
    simp only [next]
    cases s.refreshes i with
    | done a => rfl
    | ask c rest => exact s.site.cache_answer x c p

theorem issued_next {choice : Choice} {ticket : Int}
    (h : (s.next choice).2.move p = .issued ticket) : ticket = (s.site.cache p).issued + 1 := by
  cases choice with
  | change store => cases h
  | ask i x =>
    simp only [next] at h
    cases hi : s.refreshes i with
    | done a =>
      rw [hi] at h
      cases h
    | ask c rest =>
      rw [hi] at h
      exact s.site.issued_answer x c p h

theorem published_le_after (s : Overlap parts) (choices : List Choice) (p : Part) :
    (s.site.cache p).published ≤ ((Course.after next s choices).site.cache p).published := by
  induction choices generalizing s with
  | nil => exact Int.le_refl _
  | cons choice rest ih =>
    refine Int.le_trans ?_ (ih (s.next choice).1)
    rw [cache_next]
    exact Cache.published_le_moved _ _

/-- Nothing older is in place once a ticket has published. -/
theorem ticket_le_after {choices : List Choice} {e : Event} {ticket : Int} {snapshot : p.Snapshot}
    (he : e ∈ Course.events next s choices) (h : e.move p = .published ticket snapshot) :
    ticket ≤ ((Course.after next s choices).site.cache p).published := by
  induction choices generalizing s with
  | nil => cases he
  | cons choice rest ih =>
    rcases List.mem_cons.mp he with rfl | he
    · refine Int.le_trans ?_ (published_le_after (s.next choice).1 rest p)
      rw [cache_next, h]
      exact Cache.le_moved_published _ _ _
    · exact ih he

def Peruse (s : Overlap parts) : Prop := ∀ i, Peruses (s.refreshes i)

theorem Peruse.next (h : s.Peruse) (choice : Choice) : (s.next choice).1.Peruse := by
  cases choice with
  | change store => exact h
  | ask i x =>
    simp only [Overlap.next]
    cases hi : s.refreshes i with
    | done a => exact h
    | ask c rest =>
      have hkeeps := h i
      rw [hi] at hkeeps
      exact (Function.forall_update_iff _ fun _ program => Peruses program).mpr
        ⟨hkeeps.2 _ trivial, fun j _ => h j⟩

theorem peruse_start (parts : Nat → Part) (store : Store) : (start parts store).Peruse :=
  fun i => (parts i).peruses_refresh

theorem contents_next (h : s.Peruse) {choice : Choice} (unchanged : (s.next choice).2 ≠ .change)
    (p : Part) : (s.next choice).1.site.contents p = s.site.contents p := by
  cases choice with
  | change store => exact absurd rfl unchanged
  | ask i x =>
    simp only [next]
    cases hi : s.refreshes i with
    | done a => rfl
    | ask c rest =>
      have hkeeps := h i
      rw [hi] at hkeeps
      exact s.site.contents_answer x hkeeps.1 p

theorem read_next {choice : Choice} {found : p.Contents}
    (h : (s.next choice).2.move p = .read found) : found = s.site.contents p := by
  cases choice with
  | change store => cases h
  | ask i x =>
    simp only [next] at h
    cases hi : s.refreshes i with
    | done a =>
      rw [hi] at h
      cases h
    | ask c rest =>
      rw [hi] at h
      exact s.site.read_answer x c p h

/-- As long as nobody else changes the store, every read finds what is stored in the end. -/
theorem read_unchanged (h : s.Peruse) {choices : List Choice}
    (unchanged : .change ∉ Course.events next s choices) :
    (Course.after next s choices).site.contents p = s.site.contents p ∧
      ∀ e ∈ Course.events next s choices, ∀ found, e.move p = .read found →
        found = s.site.contents p := by
  induction choices generalizing s with
  | nil => exact ⟨rfl, fun _ he => absurd he List.not_mem_nil⟩
  | cons choice rest ih =>
    rw [Course.events_cons, List.mem_cons, not_or] at unchanged
    have here := contents_next h (Ne.symm unchanged.1) p
    obtain ⟨final, reads⟩ := ih (h.next choice) unchanged.2
    rw [here] at final reads
    refine ⟨final, ?_⟩
    rw [Course.events_cons, List.forall_mem_cons]
    exact ⟨fun found hfound => read_next hfound, reads⟩

/-! ### Reading one's own writes -/

/-- What an issue comes to once its ticket has published. The mark is set at the issue, and what is
read since counts as good. -/
theorem Sound.read_since (h : Sound mark good s) {issue : Choice} {choices : List Choice}
    {publish : Event} {ticket : Int} {snapshot : p.Snapshot}
    (hissue : (s.next issue).2.move p = .issued ticket)
    (hlater : publish ∈ Course.events Overlap.next (s.next issue).1 choices)
    (hpublish : publish.move p = .published ticket snapshot) :
    ∃ read ∈ Course.events Overlap.next (s.next issue).1 choices, ∃ found now,
      read.move p = .read found ∧ p.build found now =
        .ok ((Course.after Overlap.next (s.next issue).1 choices).site.cache p).snapshot := by
  have hticket := issued_next hissue
  have hle := ticket_le_after hlater hpublish
  have hmarked := h.reset fun found =>
    ∃ read ∈ Course.events Overlap.next (s.next issue).1 choices, read.move p = .read found
  have hbegun := hmarked.next issue fun found hfound => by
    rw [hissue] at hfound
    cases hfound
  have hdone := hbegun.after fun read hread found hfound => ⟨read, hread, hfound⟩
  obtain ⟨found, now, ⟨read, hread, hfound⟩, hbuild⟩ := hdone.snapshot (by omega)
  exact ⟨read, hread, found, now, hfound, hbuild⟩

/-- The snapshot in place comes from a read that was made after a ticket was issued that has
published since, and from what is stored now when nothing has been changed since the issue. -/
theorem snapshot_read_since_issue (p : Part) (parts : Nat → Part) (store : Store)
    {choices : List Choice} {before later : List Event} {issue publish : Event} {ticket : Int}
    {snapshot : p.Snapshot}
    (hevents : Course.events next (start parts store) choices = before ++ issue :: later)
    (hissue : issue.move p = .issued ticket) (hlater : publish ∈ later)
    (hpublish : publish.move p = .published ticket snapshot) :
    ∃ read ∈ later, ∃ found now, read.move p = .read found ∧
      p.build found now =
        .ok ((Course.after next (start parts store) choices).site.cache p).snapshot ∧
      (.change ∉ later →
        found = (Course.after next (start parts store) choices).site.contents p) := by
  obtain ⟨first, rest, rfl, -, hrest⟩ := Course.exists_of_events_eq_append next hevents
  cases rest with
  | nil => cases hrest
  | cons choice last =>
    obtain ⟨rfl, rfl⟩ := List.cons.inj hrest
    have hsound : Sound 0 (fun _ : p.Contents => True)
        (Course.after next (start parts store) first) :=
      (sound_start p store _).after fun _ _ _ _ => trivial
    have hperuse : (Course.after next (start parts store) first).Peruse :=
      Course.after_induction next (fun _ choice h => h.next choice) (peruse_start parts store) first
    obtain ⟨read, hread, found, now, hfound, hbuild⟩ := hsound.read_since hissue hlater hpublish
    rw [Course.after_append, Course.after_cons]
    refine ⟨read, hread, found, now, hfound, hbuild, fun unchanged => ?_⟩
    obtain ⟨final, reads⟩ := read_unchanged (p := p) (hperuse.next choice) unchanged
    rw [final]
    exact reads read hread found hfound

/-- A second refresh begins after a change and overtakes the first, whose snapshot is discarded. -/
def overtaking (changed : Store) : List Choice :=
  let x := Chance.calm ⟨0, none⟩
  [.ask 0 x, .ask 0 x, .change changed, .ask 1 x, .ask 1 x, .ask 1 x, .ask 1 x, .ask 1 x,
    .ask 0 x, .ask 0 x, .ask 0 x]

/-- A store with a tag of which no rule can be made. -/
def odd : Store :=
  stocked [⟨.int 1, .text "odd", ⟨.text "a", .text "?", .text "1", .int 1⟩, .text "A", .text ""⟩]
    ⟨0, none⟩

theorem snapshot_read_since_issue_overtaking :
    ∃ now, Book.ofTags odd.tags.rows now =
      .ok (Course.after next (start (fun _ => .rules) .empty)
        (overtaking odd)).site.rules.snapshot := by
  obtain ⟨read, _, found, now, _, hbuild, hunchanged⟩ :=
    @snapshot_read_since_issue .rules (fun _ => .rules) .empty (overtaking odd) _ _ _ _ 2 _
      (show _ = [_, _, _] ++ _ :: _ from rfl) rfl (.tail _ (.tail _ (.tail _ (.head _)))) rfl
  have hstored : found = odd.tags.rows := hunchanged fun h => nomatch h
  subst hstored
  exact ⟨now, hbuild⟩

end Overlap

end DeviceAlerts
