import DeviceAlerts.Proofs.Monitor.Overlap

/-! Snapshots that succeed one another. Every refresh is dated by when it took its ticket and when
it read. The ticket comes first, so the order of the tickets need not be that of the reads. The main
statement is that a snapshot comes from no earlier read than the one it replaces, unless its refresh
took its ticket and read while the refresh of the other had taken a ticket but had not read yet. In
that one case an older read does replace a newer one. -/

namespace DeviceAlerts

open DeviceAlerts.Monitor DeviceAlerts.Time

variable {p : Part}

/-! ### Dates -/

/-- A refresh with the dates on which it took its ticket and read, and with what it found. -/
structure Journey (p : Part) where
  ticket : Int
  issue : Nat
  read : Option (Nat × p.Contents)

def Journey.attempt (j : Journey p) : Attempt p := ⟨j.ticket, j.read.map (·.2)⟩

/-- The refreshes of one part, and the one that the snapshot in place comes from. -/
structure Calendar (p : Part) where
  today : Nat
  journeys : Nat → Option (Journey p)
  behind : Option (Journey p)

namespace Calendar

def empty (p : Part) : Calendar p := ⟨0, fun _ => none, none⟩

def idle (k : Calendar p) : Calendar p := { k with today := k.today + 1 }

/-- A day on which the refresh with a number makes a move; what it publishes is accepted or not. -/
def turn (k : Calendar p) (i : Nat) (m : p.Move) (accepted : Bool) : Calendar p :=
  match m with
  | .issued ticket =>
    ⟨k.today + 1, Function.update k.journeys i (some ⟨ticket, k.today, none⟩), k.behind⟩
  | .read found =>
    ⟨k.today + 1, Function.update k.journeys i
      ((k.journeys i).map fun j => ⟨j.ticket, j.issue, some (k.today, found)⟩), k.behind⟩
  | .published _ _ => ⟨k.today + 1, k.journeys, if accepted then k.journeys i else k.behind⟩
  | .other => k.idle

/-- A refresh that is under way or stands behind the snapshot in place. -/
def Holds (k : Calendar p) (j : Journey p) : Prop :=
  (∃ i, k.journeys i = some j) ∨ k.behind = some j

/-- The dates are in the past and in the order of the tickets, no two refreshes have one ticket, and
the snapshot in place is built from what was read by the refresh behind it. -/
structure Fits (k : Calendar p) (cache : Cache p.Snapshot) : Prop where
  past : ∀ j, k.Holds j → j.ticket ≤ cache.issued ∧ j.issue < k.today
  readPast : ∀ j, k.Holds j → ∀ r, j.read = some r → j.issue < r.1 ∧ r.1 < k.today
  ordered : ∀ j l, k.Holds j → k.Holds l → j.ticket < l.ticket → j.issue < l.issue
  own : ∀ i n j l, k.journeys i = some j → k.journeys n = some l → j.ticket = l.ticket → i = n
  reread : ∀ b n j, k.behind = some b → k.journeys n = some j → b.ticket = j.ticket →
    ∀ q r, b.read = some q → j.read = some r → q.1 ≤ r.1
  built : ∀ b, k.behind = some b → b.ticket = cache.published ∧
    ∃ r now, b.read = some r ∧ p.build r.2 now = .ok cache.snapshot

namespace Fits

variable {k : Calendar p} {cache : Cache p.Snapshot} {i : Nat}

theorem empty (p : Part) (s : p.Snapshot) : (Calendar.empty p).Fits (Cache.empty s) := by
  have nobody : ∀ j, ¬ (Calendar.empty p).Holds j := by
    rintro j (⟨_, hj⟩ | hj) <;> cases hj
  exact ⟨fun j hj => absurd hj (nobody j), fun j hj => absurd hj (nobody j),
    fun j _ hj => absurd hj (nobody j), nofun, nofun, nofun⟩

theorem idle (h : k.Fits cache) : k.idle.Fits cache where
  past j hj := ⟨(h.past j hj).1, Nat.lt_succ_of_lt (h.past j hj).2⟩
  readPast j hj r hr := ⟨(h.readPast j hj r hr).1, Nat.lt_succ_of_lt (h.readPast j hj r hr).2⟩
  ordered := h.ordered
  own := h.own
  reread := h.reread
  built := h.built

theorem issued (h : k.Fits cache) (i : Nat) (accepted : Bool) :
    (k.turn i (.issued (cache.issued + 1)) accepted).Fits
      (cache.moved (.issued (cache.issued + 1))) := by
  have split : ∀ j, (k.turn i (.issued (cache.issued + 1)) accepted).Holds j →
      j = ⟨cache.issued + 1, k.today, none⟩ ∨ k.Holds j := by
    rintro j (⟨n, hj⟩ | hj)
    · rcases update_eq_some hj with ⟨_, hj⟩ | ⟨_, hj⟩
      · exact .inl (Option.some.inj hj).symm
      · exact .inr (.inl ⟨n, hj⟩)
    · exact .inr (.inr hj)
  refine ⟨fun j hj => ?_, fun j hj r hr => ?_, fun j l hj hl hlt => ?_, ?_, ?_, h.built⟩
  · show j.ticket ≤ cache.issued + 1 ∧ j.issue < k.today + 1
    rcases split j hj with rfl | hj
    · exact ⟨Int.le_refl _, Nat.lt_succ_self _⟩
    · have := h.past j hj
      omega
  · show j.issue < r.1 ∧ r.1 < k.today + 1
    rcases split j hj with rfl | hj
    · cases hr
    · have := h.readPast j hj r hr
      omega
  · rcases split j hj with rfl | hj <;> rcases split l hl with rfl | hl
    · exact absurd hlt (Int.lt_irrefl _)
    · have := (h.past l hl).1
      have : cache.issued + 1 < l.ticket := hlt
      omega
    · exact (h.past j hj).2
    · exact h.ordered j l hj hl hlt
  · intro n m j l hj hl same
    rcases update_eq_some hj with ⟨hn, hj⟩ | ⟨_, hj⟩ <;>
      rcases update_eq_some hl with ⟨hm, hl⟩ | ⟨_, hl⟩
    · exact hn.trans hm.symm
    · cases hj
      have := (h.past l (.inl ⟨m, hl⟩)).1
      have : cache.issued + 1 = l.ticket := same
      omega
    · cases hl
      have := (h.past j (.inl ⟨n, hj⟩)).1
      have : j.ticket = cache.issued + 1 := same
      omega
    · exact h.own n m j l hj hl same
  · intro b n j hb hj same q r hq hr
    rcases update_eq_some hj with ⟨_, hj⟩ | ⟨_, hj⟩
    · cases hj
      cases hr
    · exact h.reread b n j hb hj same q r hq hr

theorem read (h : k.Fits cache) (i : Nat) (found : p.Contents) (accepted : Bool) :
    (k.turn i (.read found) accepted).Fits (cache.moved (.read found)) := by
  -- a refresh that has read is the one that it was but for its read
  have split : ∀ n j, (k.turn i (.read found) accepted).journeys n = some j →
      ∃ l, k.journeys n = some l ∧ l.ticket = j.ticket ∧ l.issue = j.issue ∧
        (j.read = l.read ∨ ∃ here, j.read = some (k.today, here)) := by
    intro n j hj
    rcases update_eq_some hj with ⟨rfl, hj⟩ | ⟨_, hj⟩
    · obtain ⟨l, hl, rfl⟩ := Option.map_eq_some_iff.mp hj
      exact ⟨l, hl, rfl, rfl, .inr ⟨found, rfl⟩⟩
    · exact ⟨j, hj, rfl, rfl, .inl rfl⟩
  have holds : ∀ j, (k.turn i (.read found) accepted).Holds j →
      ∃ l, k.Holds l ∧ l.ticket = j.ticket ∧ l.issue = j.issue ∧
        (j.read = l.read ∨ ∃ here, j.read = some (k.today, here)) := by
    rintro j (⟨n, hj⟩ | hj)
    · obtain ⟨l, hl, same⟩ := split n j hj
      exact ⟨l, .inl ⟨n, hl⟩, same⟩
    · exact ⟨j, .inr hj, rfl, rfl, .inl rfl⟩
  refine ⟨fun j hj => ?_, fun j hj r hr => ?_, fun j l hj hl hlt => ?_, ?_, ?_, h.built⟩
  · show j.ticket ≤ cache.issued ∧ j.issue < k.today + 1
    obtain ⟨l, hl, hticket, hissue, _⟩ := holds j hj
    have := h.past l hl
    omega
  · show j.issue < r.1 ∧ r.1 < k.today + 1
    obtain ⟨l, hl, _, hissue, hread | ⟨here, hread⟩⟩ := holds j hj
    · have := h.readPast l hl r (hread ▸ hr)
      omega
    · obtain rfl := Option.some.inj (hread.symm.trans hr)
      have := (h.past l hl).2
      exact ⟨by omega, Nat.lt_succ_self _⟩
  · obtain ⟨j', hj', hticket, hissue, _⟩ := holds j hj
    obtain ⟨l', hl', hticket', hissue', _⟩ := holds l hl
    have := h.ordered j' l' hj' hl'
    omega
  · intro n m j l hj hl same
    obtain ⟨j', hj', hticket, _⟩ := split n j hj
    obtain ⟨l', hl', hticket', _⟩ := split m l hl
    exact h.own n m j' l' hj' hl' (by omega)
  · intro b n j hb hj same q r hq hr
    obtain ⟨l, hl, hticket, _, hread | ⟨here, hread⟩⟩ := split n j hj
    · exact h.reread b n l hb hl (by omega) q r hq (hread ▸ hr)
    · obtain rfl := Option.some.inj (hread.symm.trans hr)
      exact Nat.le_of_lt (h.readPast b (.inr hb) q hq).2

theorem accepted (h : k.Fits cache) {j : Journey p} {r : Nat × p.Contents} {now : Moment}
    {snapshot : p.Snapshot} (hj : k.journeys i = some j) (hr : j.read = some r)
    (built : p.build r.2 now = .ok snapshot) :
    Fits ⟨k.today + 1, k.journeys, some j⟩ { cache with snapshot, published := j.ticket } := by
  have holds : ∀ l, Holds ⟨k.today + 1, k.journeys, some j⟩ l → k.Holds l := by
    rintro l (hl | hl)
    · exact .inl hl
    · cases hl
      exact .inl ⟨i, hj⟩
  refine ⟨fun l hl => h.idle.past l (holds l hl), fun l hl => h.idle.readPast l (holds l hl),
    fun l m hl hm => h.ordered l m (holds l hl) (holds m hm), h.own, ?_, ?_⟩
  · intro b n l hb hl same q r hq hr
    cases hb
    obtain rfl := h.own i n j l hj hl same
    obtain rfl := Option.some.inj (hj.symm.trans hl)
    obtain rfl := Option.some.inj (hq.symm.trans hr)
    exact Nat.le_refl _
  · intro b hb
    cases hb
    exact ⟨rfl, r, now, hr, built⟩

/-- What a move does to the dates and to the cache, once a snapshot is published by a refresh that
has read it and is accepted as the cache has it. -/
theorem turn (h : k.Fits cache) {m : p.Move} {accepted : Bool}
    (issues : ∀ ticket, m = .issued ticket → ticket = cache.issued + 1)
    (publishes : ∀ ticket snapshot, m = .published ticket snapshot →
      accepted = !decide (ticket < cache.published) ∧ ∃ j r now, k.journeys i = some j ∧
        j.ticket = ticket ∧ j.read = some r ∧ p.build r.2 now = .ok snapshot) :
    (k.turn i m accepted).Fits (cache.moved m) := by
  cases m with
  | issued ticket =>
    rw [issues ticket rfl]
    exact h.issued i accepted
  | read found => exact h.read i found accepted
  | other => exact h.idle
  | published ticket snapshot =>
    obtain ⟨rfl, j, r, now, hj, rfl, hr, hbuild⟩ := publishes ticket snapshot rfl
    by_cases late : j.ticket < cache.published
    · have hmoved : cache.moved (.published j.ticket snapshot) = cache := by
        simp only [Cache.moved, Cache.publish, late, if_true]
      have hturn : k.turn i (.published j.ticket snapshot) (!decide (j.ticket < cache.published)) =
          k.idle := by
        simp [Calendar.turn, Calendar.idle, late]
      rw [hmoved, hturn]
      exact h.idle
    · have hmoved : cache.moved (.published j.ticket snapshot) =
          { cache with snapshot, published := j.ticket } := by
        simp only [Cache.moved, Cache.publish, late, if_false]
      have hturn : k.turn i (.published j.ticket snapshot) (!decide (j.ticket < cache.published)) =
          ⟨k.today + 1, k.journeys, some j⟩ := by
        simp [Calendar.turn, late, hj]
      rw [hmoved, hturn]
      exact h.accepted hj hr hbuild

end Fits

theorem attempt_turn (k : Calendar p) (i : Nat) (m : p.Move) (accepted : Bool) (j : Nat) :
    ((k.turn i m accepted).journeys j).map Journey.attempt =
      if j = i then Attempt.moved ((k.journeys i).map Journey.attempt) m
      else (k.journeys j).map Journey.attempt := by
  by_cases hj : j = i
  · subst hj
    rw [if_pos rfl]
    cases m <;> simp only [turn, idle, Function.update_self] <;> cases k.journeys j <;> rfl
  · rw [if_neg hj]
    cases m <;> simp only [turn, idle, Function.update_of_ne hj]

end Calendar

/-! ### Snapshots that are accepted -/

namespace Part

/-- Whether an exchange puts a snapshot in place. -/
def accepts : (p : Part) → (c : Call) → c.Answer → Bool
  | rules, .rules (.publish _ _), (answer : Book × Bool) => answer.2
  | devices, .devices (.publish _ _), (answer : Directory × Bool) => answer.2
  | _, _, _ => false

theorem move_of_accepts {c : Call} {b : c.Answer} (h : p.accepts c b = true) :
    ∃ ticket snapshot, p.move c b = .published ticket snapshot := by
  unfold accepts at h
  split at h
  · exact ⟨_, _, rfl⟩
  · exact ⟨_, _, rfl⟩
  · cases h

end Part

/-- What the cache answers is whether the ticket has been passed by another. -/
theorem Cache.publish_accepted {α : Type} (c : Cache α) (ticket : Int) (snapshot : α) :
    (c.publish ticket snapshot).1.2 = !decide (ticket < c.published) := by
  by_cases h : ticket < c.published <;> simp [publish, h]

theorem Monitor.Site.accepts_answer (s : Site) (x : Chance) (c : Call) {ticket : Int}
    {snapshot : p.Snapshot} (h : p.move c (s.answer x c).1 = .published ticket snapshot) :
    p.accepts c (s.answer x c).1 = !decide (ticket < (s.cache p).published) := by
  have hpublication := Part.publication_of_move h
  unfold Part.publication? at hpublication
  split at hpublication
  · cases hpublication
    exact s.rules.publish_accepted _ _
  · cases hpublication
    exact s.directory.publish_accepted _ _
  · cases hpublication

/-! ### Runs with dates -/

/-- Refreshes that overlap, with the dates of those of one part. -/
structure Dated (parts : Nat → Part) (p : Part) where
  overlap : Overlap parts
  calendar : Calendar p

namespace Dated

open Overlap (Choice Event)

variable {parts : Nat → Part}

def Event.accepts (p : Part) : Event → Bool
  | .exchange c b => p.accepts c b
  | .change | .idle => false

def next (s : Dated parts p) : Choice → Dated parts p × Event
  | .ask i x =>
    let turned := s.overlap.next (.ask i x)
    (⟨turned.1, s.calendar.turn i (turned.2.move p) (Event.accepts p turned.2)⟩, turned.2)
  | .change store => (⟨(s.overlap.next (.change store)).1, s.calendar.idle⟩, .change)

def start (parts : Nat → Part) (p : Part) (store : Store) : Dated parts p :=
  ⟨Overlap.start parts store, .empty p⟩

/-- The dates are as they have to be, and the refreshes are honest about what was read on them. -/
structure Kept (s : Dated parts p) : Prop where
  fits : s.calendar.Fits (s.overlap.site.cache p)
  honest : ∀ i, p.Honest (s.overlap.refreshes i) ((s.calendar.journeys i).map Journey.attempt)

theorem kept_start (parts : Nat → Part) (p : Part) (store : Store) :
    (start parts p store).Kept := by
  refine ⟨?_, fun i => Part.honest_refresh p (parts i) none⟩
  cases p <;> exact Calendar.Fits.empty _ _

/-- A refresh that publishes has read under its ticket what it publishes. -/
theorem Kept.journey_of_published {s : Dated parts p} (h : s.Kept) {i : Nat} {c : Call}
    {rest : c.Answer → Activity (Except Failure (parts i).Snapshot)} {b : c.Answer} {ticket : Int}
    {snapshot : p.Snapshot} (hi : s.overlap.refreshes i = .ask c rest)
    (hmove : p.move c b = .published ticket snapshot) :
    ∃ j r now, s.calendar.journeys i = some j ∧ j.ticket = ticket ∧ j.read = some r ∧
      p.build r.2 now = .ok snapshot := by
  have hkeeps := h.honest i
  rw [hi] at hkeeps
  obtain ⟨found, now, hattempt, hbuild⟩ :=
    hkeeps.1 ticket snapshot (Part.publication_of_move hmove)
  obtain ⟨j, hj, hticket⟩ := Option.map_eq_some_iff.mp hattempt
  obtain ⟨rfl, hfound⟩ := Attempt.mk.inj hticket
  obtain ⟨r, hr, rfl⟩ := Option.map_eq_some_iff.mp hfound
  exact ⟨j, r, now, hj, rfl, hr, hbuild⟩

theorem Kept.next {s : Dated parts p} (h : s.Kept) (choice : Choice) : (s.next choice).1.Kept := by
  cases choice with
  | change store =>
    refine ⟨?_, h.honest⟩
    cases p <;> exact h.fits.idle
  | ask i x =>
    simp only [Dated.next, Overlap.next]
    cases hi : s.overlap.refreshes i with
    | done a => exact ⟨h.fits.idle, h.honest⟩
    | ask c rest =>
      have hkeeps := h.honest i
      rw [hi] at hkeeps
      refine ⟨?_, fun j => ?_⟩
      · show Calendar.Fits _ ((s.overlap.site.answer x c).2.cache p)
        rw [Site.cache_answer]
        exact h.fits.turn (fun ticket hissue => s.overlap.site.issued_answer x c p hissue)
          fun ticket snapshot hpublish =>
            ⟨s.overlap.site.accepts_answer x c hpublish, h.journey_of_published hi hpublish⟩
      · rw [Calendar.attempt_turn]
        by_cases hj : j = i
        · subst hj
          rw [if_pos rfl]
          simp only [Function.update_self]
          exact hkeeps.2 _ trivial
        · rw [if_neg hj]
          simp only [Function.update_of_ne hj]
          exact h.honest j

/-- What is accepted comes from a refresh that has read, and its ticket is not below the one in
place. -/
theorem Kept.of_accepts {s : Dated parts p} (h : s.Kept) {choice : Choice}
    (accepted : Event.accepts p (s.next choice).2 = true) :
    ∃ i j r now, s.calendar.journeys i = some j ∧ j.read = some r ∧
      (s.overlap.site.cache p).published ≤ j.ticket ∧
      (s.next choice).1.calendar.behind = some j ∧
      p.build r.2 now = .ok ((s.next choice).1.overlap.site.cache p).snapshot := by
  cases choice with
  | change store => cases accepted
  | ask i x =>
    simp only [Dated.next, Overlap.next] at accepted ⊢
    cases hi : s.overlap.refreshes i with
    | done a =>
      rw [hi] at accepted
      cases accepted
    | ask c rest =>
      rw [hi] at accepted
      obtain ⟨ticket, snapshot, hmove⟩ := Part.move_of_accepts accepted
      obtain ⟨j, r, now, hj, rfl, hr, hbuild⟩ := h.journey_of_published hi hmove
      have hpassed := s.overlap.site.accepts_answer x c hmove
      have hlate : ¬ j.ticket < (s.overlap.site.cache p).published := by
        simpa using hpassed.symm.trans accepted
      refine ⟨i, j, r, now, hj, hr, Int.not_lt.mp hlate, ?_, ?_⟩
      · simp only [Overlap.Event.move, hmove, Calendar.turn]
        exact (if_pos accepted).trans hj
      · show p.build r.2 now = .ok ((s.overlap.site.answer x c).2.cache p).snapshot
        rw [Site.cache_answer, hmove, hbuild]
        simp only [Cache.moved, Cache.publish, hlate, if_false]

/-- The read behind a snapshot that is accepted is no earlier than the one behind the snapshot that
it replaces, or its refresh took a ticket after the other one and read before it did. -/
theorem read_le_or_overtaken (p : Part) (parts : Nat → Part) (store : Store)
    {choices : List Choice} {choice : Choice} {s : Dated parts p}
    (hs : Course.after next (start parts p store) choices = s)
    (accepted : Event.accepts p (s.next choice).2 = true) :
    ∃ new r now, (s.next choice).1.calendar.behind = some new ∧ new.read = some r ∧
      p.build r.2 now = .ok ((s.next choice).1.overlap.site.cache p).snapshot ∧
      ∀ old, s.calendar.behind = some old → ∃ q before, old.read = some q ∧
        p.build q.2 before = .ok (s.overlap.site.cache p).snapshot ∧
        (q.1 ≤ r.1 ∨ old.issue < new.issue ∧ new.issue < r.1 ∧ r.1 < q.1) := by
  subst hs
  have hkept : (Course.after next (start parts p store) choices).Kept :=
    Course.after_induction next (fun _ choice h => h.next choice) (kept_start parts p store) choices
  obtain ⟨i, new, r, now, hnew, hr, hpublished, hbehind, hbuild⟩ := hkept.of_accepts accepted
  refine ⟨new, r, now, hbehind, hr, hbuild, fun old hold => ?_⟩
  obtain ⟨hticket, q, before, hq, hbuilt⟩ := hkept.fits.built old hold
  refine ⟨q, before, hq, hbuilt, ?_⟩
  rcases Int.lt_or_eq_of_le (hticket ▸ hpublished) with hlt | heq
  · have hissue := hkept.fits.ordered old new (.inr hold) (.inl ⟨i, hnew⟩) hlt
    have hread := (hkept.fits.readPast new (.inl ⟨i, hnew⟩) r hr).1
    omega
  · exact .inl (hkept.fits.reread old i new hold hnew heq q r hq hr)

/-- The second refresh takes its ticket after the first and reads before it. In between somebody
changes the store. Now the first has published, and the second is about to. -/
def lagging (changed : Store) : List Choice :=
  let x := Chance.calm ⟨0, none⟩
  [.ask 0 x, .ask 1 x, .ask 1 x, .change changed, .ask 0 x, .ask 0 x, .ask 0 x, .ask 0 x,
    .ask 1 x, .ask 1 x]

def lagged : Dated (fun _ => .rules) .rules :=
  Course.after next (start (fun _ => .rules) .rules .empty) (lagging Overlap.odd)

theorem read_le_or_overtaken_lagged :
    ∃ old new q r, lagged.calendar.behind = some old ∧
      (lagged.next (.ask 1 (.calm ⟨0, none⟩))).1.calendar.behind = some new ∧
      old.read = some q ∧ new.read = some r ∧
      old.issue < new.issue ∧ new.issue < r.1 ∧ r.1 < q.1 := by
  have haccepted : Event.accepts .rules (lagged.next (.ask 1 (.calm ⟨0, none⟩))).2 = true := rfl
  obtain ⟨new, r, _, hnew, hr, -, hold⟩ :=
    read_le_or_overtaken .rules (fun _ => .rules) .empty (show _ = lagged from rfl) haccepted
  obtain ⟨q, _, hq, -, hle | hafter⟩ := hold ⟨1, 0, some (4, Overlap.odd.tags.rows)⟩ rfl
  · cases hnew
    cases hr
    cases hq
    exact absurd hle (by decide)
  · exact ⟨_, new, q, r, rfl, hnew, hq, hr, hafter⟩

/-- A read of the empty store replaces a later one that found a tag. -/
theorem older_read_replaces_newer :
    Event.accepts .rules (lagged.next (.ask 1 (.calm ⟨0, none⟩))).2 = true ∧
      (∃ old q, lagged.calendar.behind = some old ∧ old.read = some q ∧ q.1 = 4) ∧
      (∃ new r, (lagged.next (.ask 1 (.calm ⟨0, none⟩))).1.calendar.behind = some new ∧
        new.read = some r ∧ r.1 = 2) ∧
      lagged.overlap.site.rules.snapshot.tagCount = 1 ∧
      (lagged.next (.ask 1 (.calm ⟨0, none⟩))).1.overlap.site.rules.snapshot.tagCount = 0 :=
  ⟨rfl, ⟨_, _, rfl, rfl, rfl⟩, ⟨_, _, rfl, rfl, rfl⟩, rfl, rfl⟩

end Dated

end DeviceAlerts
