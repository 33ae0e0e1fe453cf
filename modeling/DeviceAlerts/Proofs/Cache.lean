import DeviceAlerts.Cache
import DeviceAlerts.Proofs.Course
import Mathlib.Data.List.Range

/-! What a cache shows. Tickets are counted from one on. Whoever has taken one may publish under it
once, later than others who took theirs after it, or never. A cache compares a ticket with no other
than the one in place, but that comes to the same as comparing it with all under which anything was
published: what stands in the cache is always what was published under the largest of them. -/

namespace DeviceAlerts.Cache

variable {σ : Type}

/-! ### Histories -/

/-- A question to a cache with its answer. -/
structure Exchange (σ : Type) where
  call : Call σ
  answer : call.Answer

namespace Exchange

/-- The ticket that was given out. -/
def ticket? : Exchange σ → Option Int
  | ⟨.issue, (ticket : Int)⟩ => some ticket
  | _ => none

/-- What was published and under which ticket, whether it was taken or discarded. -/
def publication? : Exchange σ → Option (Int × σ)
  | ⟨.publish ticket snapshot, _⟩ => some (ticket, snapshot)
  | _ => none

end Exchange

def next (c : Cache σ) (call : Call σ) : Cache σ × Exchange σ :=
  ((c.perform call).2, ⟨call, (c.perform call).1⟩)

/-- The tickets that were given out, in their order. -/
def tickets (past : List (Exchange σ)) : List Int := past.filterMap Exchange.ticket?

def publications (past : List (Exchange σ)) : List (Int × σ) :=
  past.filterMap Exchange.publication?

theorem tickets_append (past later : List (Exchange σ)) :
    tickets (past ++ later) = tickets past ++ tickets later := List.filterMap_append

theorem publications_append (past later : List (Exchange σ)) :
    publications (past ++ later) = publications past ++ publications later :=
  List.filterMap_append

/-- A ticket that was given out and under which nothing has been published yet. -/
def Outstanding (past : List (Exchange σ)) (ticket : Int) : Prop :=
  ticket ∈ tickets past ∧ ticket ∉ (publications past).map Prod.fst

/-- After what is past, nothing is published but under tickets that are outstanding. -/
def Orderly (past : List (Exchange σ)) : List (Exchange σ) → Prop
  | [] => True
  | e :: later =>
    (∀ p, e.publication? = some p → Outstanding past p.1) ∧ Orderly (past ++ [e]) later

theorem Orderly.of_append {past first second : List (Exchange σ)}
    (h : Orderly past (first ++ second)) : Orderly past first := by
  induction first generalizing past with
  | nil => exact trivial
  | cons e rest ih => exact ⟨h.1, ih h.2⟩

theorem Orderly.append_right {past first second : List (Exchange σ)}
    (h : Orderly past (first ++ second)) : Orderly (past ++ first) second := by
  induction first generalizing past with
  | nil => rwa [List.append_nil]
  | cons e rest ih =>
    have hrest := ih h.2
    rwa [List.append_assoc, List.singleton_append] at hrest

/-! ### The largest ticket -/

/-- The numbers from one on. -/
def upTo (n : Nat) : List Int := (List.range n).map fun (i : Nat) => (i : Int) + 1

theorem upTo_succ (n : Nat) : upTo (n + 1) = upTo n ++ [(n : Int) + 1] := by
  rw [upTo, List.range_succ, List.map_append]
  rfl

theorem mem_upTo {n : Nat} {ticket : Int} : ticket ∈ upTo n ↔ 0 < ticket ∧ ticket ≤ n := by
  rw [upTo, List.mem_map]
  constructor
  · rintro ⟨i, hi, rfl⟩
    have := List.mem_range.mp hi
    omega
  · rintro ⟨hpositive, hle⟩
    exact ⟨ticket.toNat - 1, List.mem_range.mpr (by omega), by omega⟩

/-- What was published under the largest ticket, or nothing under zero. -/
inductive Newest (nothing : σ) (published : List (Int × σ)) : Int → σ → Prop
  | none (unpublished : published = []) : Newest nothing published 0 nothing
  | some {ticket : Int} {snapshot : σ} (member : (ticket, snapshot) ∈ published)
      (largest : ∀ p ∈ published, p = (ticket, snapshot) ∨ p.1 < ticket) :
      Newest nothing published ticket snapshot

namespace Newest

variable {nothing snapshot : σ} {published : List (Int × σ)} {ticket : Int}

theorem le (h : Newest nothing published ticket snapshot) {p : Int × σ} (hp : p ∈ published) :
    p.1 ≤ ticket := by
  cases h with
  | none unpublished =>
    rw [unpublished] at hp
    cases hp
  | some member largest =>
    rcases largest p hp with rfl | hlt
    · exact Int.le_refl _
    · exact Int.le_of_lt hlt

/-- To be below the ticket in place is to be below any under which something was published. -/
theorem lt_iff (h : Newest nothing published ticket snapshot) {other : Int} (positive : 0 < other) :
    other < ticket ↔ ∃ p ∈ published, other < p.1 := by
  constructor
  · intro hlt
    cases h with
    | none unpublished => omega
    | some member largest => exact ⟨_, member, hlt⟩
  · rintro ⟨p, hp, hlt⟩
    exact Int.lt_of_lt_of_le hlt (h.le hp)

theorem eq_zero_or_mem (h : Newest nothing published ticket snapshot) :
    ticket = 0 ∨ ∃ p ∈ published, p.1 = ticket := by
  cases h with
  | none unpublished => exact .inl rfl
  | some member largest => exact .inr ⟨_, member, rfl⟩

/-- A later publication is discarded under a smaller ticket. -/
theorem discard (h : Newest nothing published ticket snapshot) {other : Int} (value : σ)
    (positive : 0 < other) (late : other < ticket) :
    Newest nothing (published ++ [(other, value)]) ticket snapshot := by
  cases h with
  | none unpublished => omega
  | some member largest =>
    refine .some (List.mem_append_left _ member) fun p hp => ?_
    rcases List.mem_append.mp hp with hp | hp
    · exact largest p hp
    · obtain rfl := List.mem_singleton.mp hp
      exact .inr late

/-- A later publication is taken under a larger ticket. -/
theorem accept (h : Newest nothing published ticket snapshot) {other : Int} (value : σ)
    (early : ¬ other < ticket) (unused : other ∉ published.map Prod.fst) :
    Newest nothing (published ++ [(other, value)]) other value := by
  refine .some (List.mem_append_right _ (List.mem_singleton_self _)) fun p hp => ?_
  rcases List.mem_append.mp hp with hp | hp
  · have hle := h.le hp
    have hne : p.1 ≠ other := fun same => unused (List.mem_map.mpr ⟨p, hp, same⟩)
    exact .inr (by omega)
  · exact .inl (List.mem_singleton.mp hp)

end Newest

/-! ### What every call keeps -/

/-- A cache shows what has become of it. -/
structure Shows (nothing : σ) (past : List (Exchange σ)) (c : Cache σ) : Prop where
  issued : c.issued = (tickets past).length
  counted : tickets past = upTo (tickets past).length
  known : ∀ p ∈ publications past, p.1 ∈ tickets past
  newest : Newest nothing (publications past) c.published c.snapshot

theorem shows_empty (nothing : σ) : Shows nothing [] (empty nothing) :=
  ⟨rfl, rfl, nofun, .none rfl⟩

namespace Shows

variable {nothing : σ} {past : List (Exchange σ)} {c : Cache σ}

theorem mem_tickets (h : Shows nothing past c) {ticket : Int} :
    ticket ∈ tickets past ↔ 0 < ticket ∧ ticket ≤ c.issued := by
  rw [h.counted, mem_upTo, h.issued]

theorem published_le (h : Shows nothing past c) : c.published ≤ c.issued := by
  rcases h.newest.eq_zero_or_mem with hzero | ⟨p, hp, hticket⟩
  · have := h.issued
    omega
  · rw [← hticket]
    exact (h.mem_tickets.mp (h.known p hp)).2

theorem idle (h : Shows nothing past c) {e : Exchange σ} (ungiven : e.ticket? = none)
    (unpublished : e.publication? = none) : Shows nothing (past ++ [e]) c := by
  have htickets : tickets (past ++ [e]) = tickets past := by
    rw [tickets_append, tickets, tickets, List.filterMap_cons_none ungiven]
    exact List.append_nil _
  have hpublished : publications (past ++ [e]) = publications past := by
    rw [publications_append, publications, publications, List.filterMap_cons_none unpublished]
    exact List.append_nil _
  obtain ⟨issued, counted, known, newest⟩ := h
  rw [← htickets] at issued counted known
  rw [← hpublished] at known newest
  exact ⟨issued, counted, known, newest⟩

theorem issue (h : Shows nothing past c) :
    Shows nothing (past ++ [(c.next .issue).2]) c.issue.2 := by
  have htickets : tickets (past ++ [(c.next .issue).2]) = tickets past ++ [c.issued + 1] :=
    tickets_append past _
  have hpublished : publications (past ++ [(c.next .issue).2]) = publications past :=
    (publications_append past _).trans (List.append_nil _)
  have hlength : (tickets past ++ [c.issued + 1]).length = (tickets past).length + 1 :=
    List.length_append
  refine ⟨?_, ?_, fun p hp => ?_, ?_⟩
  · rw [htickets, hlength]
    show c.issued + 1 = _
    rw [h.issued]
    rfl
  · rw [htickets, hlength, upTo_succ, ← h.counted, h.issued]
  · rw [hpublished] at hp
    rw [htickets]
    exact List.mem_append_left _ (h.known p hp)
  · rw [hpublished]
    exact h.newest

theorem publish (h : Shows nothing past c) {ticket : Int} (snapshot : σ)
    (outstanding : Outstanding past ticket) :
    Shows nothing (past ++ [(c.next (.publish ticket snapshot)).2])
      (c.publish ticket snapshot).2 := by
  have htickets : tickets (past ++ [(c.next (.publish ticket snapshot)).2]) = tickets past :=
    (tickets_append past _).trans (List.append_nil _)
  have hpublished : publications (past ++ [(c.next (.publish ticket snapshot)).2]) =
      publications past ++ [(ticket, snapshot)] := publications_append past _
  have hissued : (c.publish ticket snapshot).2.issued = c.issued := by
    unfold Cache.publish
    split <;> rfl
  refine ⟨?_, ?_, fun p hp => ?_, ?_⟩
  · rw [hissued, htickets, h.issued]
  · rw [htickets]
    exact h.counted
  · rw [htickets]
    rw [hpublished] at hp
    rcases List.mem_append.mp hp with hp | hp
    · exact h.known p hp
    · obtain rfl := List.mem_singleton.mp hp
      exact outstanding.1
  · rw [hpublished]
    unfold Cache.publish
    split
    · next late => exact h.newest.discard snapshot (h.mem_tickets.mp outstanding.1).1 late
    · next early => exact h.newest.accept snapshot early outstanding.2

theorem next (h : Shows nothing past c) {call : Call σ}
    (orderly : ∀ p, (c.next call).2.publication? = some p → Outstanding past p.1) :
    Shows nothing (past ++ [(c.next call).2]) (c.next call).1 := by
  cases call with
  | issue => exact h.issue
  | publish ticket snapshot => exact h.publish snapshot (orderly (ticket, snapshot) rfl)
  | read | generation => exact h.idle rfl rfl

theorem after (h : Shows nothing past c) {calls : List (Call σ)}
    (orderly : Orderly past (Course.events Cache.next c calls)) :
    Shows nothing (past ++ Course.events Cache.next c calls) (Course.after Cache.next c calls) := by
  induction calls generalizing past c with
  | nil =>
    rw [Course.events_nil, List.append_nil]
    exact h
  | cons call rest ih =>
    have hrest := ih (h.next orderly.1) orderly.2
    rwa [List.append_assoc, List.singleton_append] at hrest

end Shows

theorem published_le_next (c : Cache σ) (call : Call σ) :
    c.published ≤ (c.next call).1.published := by
  cases call with
  | publish ticket snapshot =>
    show c.published ≤ (c.publish ticket snapshot).2.published
    unfold publish
    split
    · exact Int.le_refl _
    · next early => exact Int.not_lt.mp early
  | read | generation | issue => exact Int.le_refl _

theorem published_le_after (c : Cache σ) (calls : List (Call σ)) :
    c.published ≤ (Course.after next c calls).published := by
  induction calls generalizing c with
  | nil => exact Int.le_refl _
  | cons call rest ih => exact Int.le_trans (c.published_le_next call) (ih (c.next call).1)

/-- At every moment the tickets are counted from one on, and the cache shows what was published
under the largest of those that were published under. Its generation is that ticket, which has been
given out and never falls. What is published next is taken if and only if nothing was published
under a larger ticket; otherwise it is discarded and nothing changes. -/
theorem shows_newest {nothing : σ} {calls before later : List (Call σ)}
    (orderly : Orderly [] (Course.events next (empty nothing) calls))
    (cut : calls = before ++ later) :
    let past := Course.events next (empty nothing) before
    let c := Course.after next (empty nothing) before
    tickets past = upTo (tickets past).length ∧
      Newest nothing (publications past) (c.perform .generation).1 (c.perform .read).1 ∧
      (c.perform .generation).1 ≤ (tickets past).length ∧
      (c.perform .generation).1 ≤
        ((Course.after next (empty nothing) calls).perform .generation).1 ∧
      ∀ ticket snapshot rest, later = .publish ticket snapshot :: rest →
        ((c.perform (.publish ticket snapshot)).1 = (snapshot, true) ↔
          ∀ p ∈ publications past, p.1 ≤ ticket) ∧
        ((∃ p ∈ publications past, ticket < p.1) →
          c.perform (.publish ticket snapshot) = (((c.perform .read).1, false), c)) := by
  intro past c
  subst cut
  rw [Course.events_append] at orderly
  have shown : Shows nothing past c := (shows_empty nothing).after orderly.of_append
  refine ⟨shown.counted, shown.newest, ?_, ?_, fun ticket snapshot rest hlater => ?_⟩
  · exact shown.issued ▸ shown.published_le
  · rw [Course.after_append]
    exact c.published_le_after later
  · subst hlater
    have outstanding : Outstanding past ticket := orderly.append_right.1 (ticket, snapshot) rfl
    have hlate := shown.newest.lt_iff (shown.mem_tickets.mp outstanding.1).1
    show ((c.publish ticket snapshot).1 = (snapshot, true) ↔ _) ∧
      (_ → c.publish ticket snapshot = ((c.snapshot, false), c))
    unfold publish
    by_cases late : ticket < c.published
    · rw [if_pos late]
      refine ⟨⟨fun taken => ?_, fun all => ?_⟩, fun _ => rfl⟩
      · cases congrArg Prod.snd taken
      · obtain ⟨p, hp, hlt⟩ := hlate.mp late
        exact absurd (all p hp) (Int.not_le.mpr hlt)
    · rw [if_neg late]
      refine ⟨⟨fun _ p hp => ?_, fun _ => rfl⟩, fun larger => absurd (hlate.mpr larger) late⟩
      exact Int.not_lt.mp fun hlt => late (hlate.mpr ⟨p, hp, hlt⟩)

/-- The second of three refreshes publishes before the first, and the third never does. -/
def overtaken : List (Call Nat) :=
  [.issue, .issue, .issue, .publish 2 20, .generation, .publish 1 10, .read]

theorem shows_newest_overtaken :
    let c := Course.after next (empty 0) (overtaken.take 5)
    Newest 0 [(2, 20)] (c.perform .generation).1 (c.perform .read).1 ∧
      c.perform (.publish 1 10) = ((20, false), c) := by
  have orderly : Orderly [] (Course.events next (empty 0) overtaken) := by
    refine ⟨nofun, nofun, nofun, ?_, nofun, ?_, nofun, trivial⟩ <;> rintro _ ⟨⟩ <;>
      exact ⟨by decide, by decide⟩
  obtain ⟨-, newest, -, -, discarded⟩ :=
    @shows_newest Nat 0 overtaken (overtaken.take 5) (overtaken.drop 5) orderly rfl
  exact ⟨newest, (discarded 1 10 [.read] rfl).2 ⟨(2, 20), by decide, by decide⟩⟩

end DeviceAlerts.Cache
