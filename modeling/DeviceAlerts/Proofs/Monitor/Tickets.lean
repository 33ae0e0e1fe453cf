import DeviceAlerts.Proofs.Monitor.Refresh
import DeviceAlerts.Proofs.Protocol
import Mathlib.Logic.Function.Basic

/-! Tickets. A refresh takes a ticket, reads what is stored and publishes what it made of that under
its ticket. The main statement is about a mark that is set while no ticket lies above it: what is
true of everything that is read from then on stays true of whatever stands in the cache under a
ticket above the mark, however many refreshes overlap. -/

namespace DeviceAlerts

open DeviceAlerts.Monitor DeviceAlerts.Time

variable {p : Part}

/-! ### Honest programs -/

/-- A refresh under way: its ticket and what it read since. -/
structure Attempt (p : Part) where
  ticket : Int
  found : Option p.Contents

def Attempt.moved (g : Option (Attempt p)) : p.Move → Option (Attempt p)
  | .issued ticket => some ⟨ticket, none⟩
  | .read found => g.map fun a => ⟨a.ticket, some found⟩
  | .published _ _ | .other => g

namespace Part

/-- What a call publishes, and under which ticket. -/
def publication? : (p : Part) → Call → Option (Int × p.Snapshot)
  | rules, .rules (.publish ticket book) => some (ticket, book)
  | devices, .devices (.publish ticket directory) => some (ticket, directory)
  | _, _ => none

theorem publication_of_move {c : Call} {b : c.Answer} {ticket : Int} {snapshot : p.Snapshot}
    (h : p.move c b = .published ticket snapshot) : p.publication? c = some (ticket, snapshot) := by
  unfold move at h
  split at h <;> cases h <;> rfl

/-- Only what was read under a ticket may be published under it. -/
def honesty (p : Part) : Protocol monitor where
  State := Option (Attempt p)
  may g c := ∀ ticket snapshot, p.publication? c = some (ticket, snapshot) →
    ∃ found now, g = some ⟨ticket, some found⟩ ∧ p.build found now = .ok snapshot
  reckons _ _ _ := True
  after g c b := Attempt.moved g (p.move c b)

/-- Whether a program publishes nothing but what it read under its ticket. -/
def Honest {α : Type} (p : Part) (program : Activity α) (g : Option (Attempt p)) : Prop :=
  Program.Keeps (I := monitor) p.honesty (fun _ _ => True) program g

theorem honest_ask {α : Type} {g : Option (Attempt p)} {c : Call} {next : c.Answer → Activity α}
    (silent : p.publication? c = none)
    (rest : ∀ b, p.Honest (next b) (Attempt.moved g (p.move c b))) :
    p.Honest (.ask c next) g := by
  refine ⟨fun ticket snapshot h => ?_, fun b _ => rest b⟩
  rw [silent] at h
  cases h

theorem honest_publishRules (p : Part) (ticket : Int) (tags : List Tag) (g : Option (Attempt p)) :
    p.Honest (publishRules ticket tags)
      (Attempt.moved (Attempt.moved g (p.move (.rules .issue) ticket))
        (p.move (.store .listTags) (.ok tags))) := by
  unfold publishRules
  refine honest_ask (by cases p <;> rfl) fun _ => ?_
  cases (Compilation.ofTags tags).rules with
  | error limit => exact trivial
  | ok _ =>
    refine honest_ask (by cases p <;> rfl) fun (now : Moment) => ?_
    cases hbook : Book.ofTags tags now with
    | error failure => exact trivial
    | ok book =>
      refine ⟨fun t snapshot h => ?_, fun _ _ => trivial⟩
      cases p with
      | devices => cases h
      | rules =>
        cases h
        exact ⟨tags, now, rfl, hbook⟩

theorem honest_refreshRules (p : Part) (g : Option (Attempt p)) : p.Honest refreshRules g := by
  rw [refreshRules_eq]
  refine honest_ask (by cases p <;> rfl) fun (ticket : Int) => ?_
  refine honest_ask (by cases p <;> rfl) fun answer => ?_
  cases answer with
  | error failure => exact trivial
  | ok tags => exact honest_publishRules p ticket tags g

theorem honest_publishDevices (p : Part) (ticket : Int) (found : List Device)
    (g : Option (Attempt p)) :
    p.Honest (publishDevices ticket found)
      (Attempt.moved (Attempt.moved g (p.move (.devices .issue) ticket))
        (p.move (.store .listDevices) (.ok found))) := by
  unfold publishDevices
  refine honest_ask (by cases p <;> rfl) fun _ => ?_
  refine honest_ask (by cases p <;> rfl) fun (now : Moment) => ?_
  cases hmade : (Directory.ofDevices found now).mapError Failure.misuse with
  | error failure => exact trivial
  | ok directory =>
    refine ⟨fun t snapshot h => ?_, fun _ _ => trivial⟩
    cases p with
    | rules => cases h
    | devices =>
      cases h
      exact ⟨found, now, rfl, hmade⟩

theorem honest_refreshDevices (p : Part) (g : Option (Attempt p)) : p.Honest refreshDevices g := by
  rw [refreshDevices_eq]
  refine honest_ask (by cases p <;> rfl) fun (ticket : Int) => ?_
  refine honest_ask (by cases p <;> rfl) fun answer => ?_
  cases answer with
  | error failure => exact trivial
  | ok found => exact honest_publishDevices p ticket found g

theorem honest_refresh (p q : Part) (g : Option (Attempt p)) : p.Honest q.refresh g := by
  cases q with
  | devices => exact honest_refreshDevices p g
  | rules => exact honest_refreshRules p g

end Part

/-! ### Marks -/

/-- What is good may depend on the mark's moment. A refresh whose ticket lies above the mark has
read something good, if it has read, and so has the one that the snapshot comes from. -/
structure Watermark {ι : Type} (mark : Int) (good : p.Contents → Prop) (cache : Cache p.Snapshot)
    (attempts : ι → Option (Attempt p)) : Prop where
  published_le : cache.published ≤ cache.issued
  ticket_le : ∀ i a, attempts i = some a → a.ticket ≤ cache.issued
  found_good : ∀ i a found, attempts i = some a → a.found = some found → mark < a.ticket →
    good found
  snapshot_good : mark < cache.published →
    ∃ found now, good found ∧ p.build found now = .ok cache.snapshot

theorem Cache.published_le_moved (cache : Cache p.Snapshot) (m : p.Move) :
    cache.published ≤ (cache.moved m).published := by
  cases m with
  | published ticket snapshot =>
    simp only [moved, publish]
    split
    · exact Int.le_refl _
    · next h => exact Int.not_lt.mp h
  | _ => exact Int.le_refl _

theorem Cache.issued_le_moved (cache : Cache p.Snapshot) (m : p.Move) :
    cache.issued ≤ (cache.moved m).issued := by
  cases m with
  | issued ticket =>
    show cache.issued ≤ cache.issued + 1
    omega
  | published ticket snapshot =>
    simp only [moved, publish]
    split <;> exact Int.le_refl _
  | _ => exact Int.le_refl _

theorem Cache.le_moved_published (cache : Cache p.Snapshot) (ticket : Int) (snapshot : p.Snapshot) :
    ticket ≤ (cache.moved (.published ticket snapshot)).published := by
  simp only [moved, publish]
  split
  · next h => exact Int.le_of_lt h
  · exact Int.le_refl _

theorem update_eq_some {ι α : Type} [DecidableEq ι] {f : ι → Option α} {i j : ι} {v : Option α}
    {a : α} (h : Function.update f i v j = some a) : j = i ∧ v = some a ∨ j ≠ i ∧ f j = some a := by
  by_cases hj : j = i
  · subst hj
    rw [Function.update_self] at h
    exact .inl ⟨rfl, h⟩
  · rw [Function.update_of_ne hj] at h
    exact .inr ⟨hj, h⟩

namespace Watermark

variable {ι : Type} {mark : Int} {good : p.Contents → Prop} {cache : Cache p.Snapshot}
  {attempts : ι → Option (Attempt p)}

/-- The mark may be set anew at any time, and anything may count as good from then on. -/
theorem reset (w : Watermark mark good cache attempts) (other : p.Contents → Prop) :
    Watermark cache.issued other cache attempts where
  published_le := w.published_le
  ticket_le := w.ticket_le
  found_good i a _ ha _ above := absurd (w.ticket_le i a ha) (Int.not_le.mpr above)
  snapshot_good above := absurd w.published_le (Int.not_le.mpr above)

theorem moved [DecidableEq ι] (w : Watermark mark good cache attempts) {i : ι} {m : p.Move}
    (fresh : ∀ ticket, m = .issued ticket → ticket = cache.issued + 1)
    (reads : ∀ found, m = .read found → good found)
    (honest : ∀ ticket snapshot, m = .published ticket snapshot →
      ∃ found now, attempts i = some ⟨ticket, some found⟩ ∧ p.build found now = .ok snapshot) :
    Watermark mark good (cache.moved m)
      (Function.update attempts i (Attempt.moved (attempts i) m)) := by
  cases m with
  | issued ticket =>
    have hticket : ticket = cache.issued + 1 := fresh ticket rfl
    have hle := w.published_le
    refine ⟨?_, ?_, ?_, w.snapshot_good⟩
    · show cache.published ≤ cache.issued + 1
      omega
    · intro j a ha
      show a.ticket ≤ cache.issued + 1
      rcases update_eq_some ha with ⟨rfl, ha⟩ | ⟨_, ha⟩
      · cases ha
        exact Int.le_of_eq hticket
      · have := w.ticket_le j a ha
        omega
    · intro j a found ha hfound above
      rcases update_eq_some ha with ⟨rfl, ha⟩ | ⟨_, ha⟩
      · cases ha
        cases hfound
      · exact w.found_good j a found ha hfound above
  | read found =>
    refine ⟨w.published_le, ?_, ?_, w.snapshot_good⟩
    · intro j a ha
      rcases update_eq_some ha with ⟨rfl, ha⟩ | ⟨_, ha⟩
      · obtain ⟨b, hb, rfl⟩ := Option.map_eq_some_iff.mp ha
        exact w.ticket_le j b hb
      · exact w.ticket_le j a ha
    · intro j a other ha hother above
      rcases update_eq_some ha with ⟨rfl, ha⟩ | ⟨_, ha⟩
      · obtain ⟨b, hb, rfl⟩ := Option.map_eq_some_iff.mp ha
        cases hother
        exact reads found rfl
      · exact w.found_good j a other ha hother above
  | published ticket snapshot =>
    rw [show Attempt.moved (attempts i) (.published ticket snapshot) = attempts i from rfl,
      Function.update_eq_self]
    obtain ⟨found, now, ha, hbuild⟩ := honest ticket snapshot rfl
    simp only [Cache.moved, Cache.publish]
    split
    · exact w
    · exact ⟨w.ticket_le i _ ha, w.ticket_le, w.found_good,
        fun above => ⟨found, now, w.found_good i _ found ha rfl above, hbuild⟩⟩
  | other =>
    rw [show Attempt.moved (attempts i) .other = attempts i from rfl, Function.update_eq_self]
    exact w

theorem mono {other : p.Contents → Prop} (w : Watermark mark good cache attempts)
    (weaker : ∀ found, good found → other found) : Watermark mark other cache attempts where
  published_le := w.published_le
  ticket_le := w.ticket_le
  found_good i a found ha hfound above := weaker found (w.found_good i a found ha hfound above)
  snapshot_good above :=
    let ⟨found, now, hgood, hbuild⟩ := w.snapshot_good above
    ⟨found, now, weaker found hgood, hbuild⟩

/-- What an exchange with the site does to a mark. -/
theorem answer [DecidableEq ι] {s : Site} {x : Chance} {c : Call} {i : ι}
    (w : Watermark mark good (s.cache p) attempts) (may : p.honesty.may (attempts i) c)
    (reads : ∀ found, p.move c (s.answer x c).1 = .read found → good found) :
    Watermark mark good ((s.answer x c).2.cache p)
      (Function.update attempts i (Attempt.moved (attempts i) (p.move c (s.answer x c).1))) := by
  rw [Site.cache_answer]
  exact w.moved (fun _ h => s.issued_answer x c p h) reads fun ticket snapshot h =>
    may ticket snapshot (Part.publication_of_move h)

end Watermark

end DeviceAlerts
