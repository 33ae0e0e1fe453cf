import DeviceAlerts.Monitor.Call
import DeviceAlerts.Proofs.Rule.Loading
import DeviceAlerts.Store

/-! Where the monitor works: a store in memory and the two caches that are kept of it. What the
surroundings are free to choose comes with every question as a chance: the reading of the clock,
whether a store call fails, and what becomes of probes and alerts. A store call that fails has no
effect. -/

namespace DeviceAlerts.Monitor

open DeviceAlerts.Time

structure Site where
  store : Store
  rules : Cache Book
  directory : Cache Directory

structure Chance where
  now : Moment
  fault : Option Failure
  delivered : Bool
  probe : Probe

/-- Nothing fails. -/
def Chance.calm (now : Moment) : Chance := ⟨now, none, true, .status 200⟩

/-- A store to which tags have been added one after the other. -/
def stocked (drafts : List TagDraft) (now : Moment) : Store :=
  { Store.empty with tags := drafts.foldl (fun tags draft => (tags.create now draft).2) .empty }

namespace Site

/-- Nothing has been cached yet. -/
def fresh (store : Store) : Site := ⟨store, .empty .empty, .empty .empty⟩

def answer (s : Site) (x : Chance) : (c : Call) → c.Answer × Site
  | .store c =>
    match x.fault with
    | some failure => (.error failure, s)
    | none => ((s.store.perform x.now c).1, { s with store := (s.store.perform x.now c).2 })
  | .rules c => ((s.rules.perform c).1, { s with rules := (s.rules.perform c).2 })
  | .devices c => ((s.directory.perform c).1, { s with directory := (s.directory.perform c).2 })
  | .now => (x.now, s)
  | .tell _ => ((), s)
  | .alert _ _ => (x.delivered, s)
  | .probe _ => (x.probe, s)

end Site

end DeviceAlerts.Monitor

namespace DeviceAlerts

open DeviceAlerts.Monitor DeviceAlerts.Time

/-! ### The two parts that are cached -/

namespace Part

/-- What a refresh reads. -/
def Contents : Part → Type
  | devices => List Device
  | rules => List Tag

/-- What a refresh makes of it. -/
def Snapshot : Part → Type
  | devices => Directory
  | rules => Book

def build : (p : Part) → p.Contents → Moment → Except Failure p.Snapshot
  | devices, (found : List Device), now => (Directory.ofDevices found now).mapError .misuse
  | rules, (tags : List Tag), now => Book.ofTags tags now

/-- What an exchange means for the cache of one part. -/
inductive Move (p : Part)
  | issued (ticket : Int)
  | read (contents : p.Contents)
  | published (ticket : Int) (snapshot : p.Snapshot)
  | other

def move : (p : Part) → (c : Call) → c.Answer → p.Move
  | rules, .rules .issue, (ticket : Int) => .issued ticket
  | rules, .store .listTags, (.ok tags : Except Failure (List Tag)) => .read tags
  | rules, .rules (.publish ticket book), _ => .published ticket book
  | devices, .devices .issue, (ticket : Int) => .issued ticket
  | devices, .store .listDevices, (.ok found : Except Failure (List Device)) => .read found
  | devices, .devices (.publish ticket directory), _ => .published ticket directory
  | _, _, _ => .other

end Part

namespace Monitor.Site

def contents (s : Site) : (p : Part) → p.Contents
  | .devices => s.store.devices.rows
  | .rules => s.store.tags.rows

def cache (s : Site) : (p : Part) → Cache p.Snapshot
  | .devices => s.directory
  | .rules => s.rules

end Monitor.Site

/-- A cache after an exchange. -/
def Cache.moved {p : Part} (c : Cache p.Snapshot) : p.Move → Cache p.Snapshot
  | .issued _ => c.issue.2
  | .published ticket snapshot => (c.publish ticket snapshot).2
  | .read _ | .other => c

namespace Monitor.Site

variable (s : Site) (x : Chance) (c : Call) (p : Part)

theorem cache_answer_store (call : Store.Call) :
    (s.answer x (.store call)).2.cache p = s.cache p := by
  simp only [answer]
  cases p <;> cases x.fault <;> rfl

theorem moved_store (call : Store.Call) (before : Cache p.Snapshot) :
    before.moved (p.move (.store call) (s.answer x (.store call)).1) = before := by
  cases p <;> cases call <;> cases h : x.fault <;>
    simp [answer, h, Part.move, Cache.moved, Store.perform]

theorem cache_answer :
    (s.answer x c).2.cache p = (s.cache p).moved (p.move c (s.answer x c).1) := by
  cases c with
  | store call => rw [cache_answer_store, moved_store]
  | rules call => cases p <;> cases call <;> rfl
  | devices call => cases p <;> cases call <;> rfl
  | now | tell | alert | probe => cases p <;> rfl

theorem issued_answer {ticket : Int} (h : p.move c (s.answer x c).1 = .issued ticket) :
    ticket = (s.cache p).issued + 1 := by
  cases p <;> cases c with
  | rules call => cases call <;> simp_all [Part.move, answer, Cache.perform, Cache.issue, cache]
  | devices call => cases call <;> simp_all [Part.move, answer, Cache.perform, Cache.issue, cache]
  | store call =>
    cases call <;> cases hx : x.fault <;> simp [answer, hx, Part.move, Store.perform] at h
  | _ => simp [Part.move] at h

theorem read_answer {found : p.Contents} (h : p.move c (s.answer x c).1 = .read found) :
    found = s.contents p := by
  cases p <;> cases c with
  | rules call => cases call <;> simp [Part.move] at h
  | devices call => cases call <;> simp [Part.move] at h
  | store call =>
    cases call <;> cases hx : x.fault <;> simp [answer, hx, Part.move, Store.perform] at h
    exact (Part.Move.read.inj h).symm
  | _ => simp [Part.move] at h

end Monitor.Site

end DeviceAlerts
