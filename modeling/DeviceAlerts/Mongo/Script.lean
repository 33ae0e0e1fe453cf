import DeviceAlerts.Mongo.Session
import DeviceAlerts.Mongo.Store

/-! Scripted surroundings of the store in the database: the replies of the driver are laid down in
advance, and its requests are recorded. -/

namespace DeviceAlerts.Mongo

open DeviceAlerts.Number DeviceAlerts.Time

/-- A reply of the driver, whatever it is asked. -/
structure Reply where
  fault : Option Fault
  documents : List Datum
  document : Datum
  deleted : Datum

def Reply.empty : Reply := ⟨none, [], .null, .int 0⟩

def Reply.answer (r : Reply) : (request : Request) → Except Fault request.Answer := fun request =>
  match r.fault with
  | some fault => .error fault
  | none =>
    match request with
    | .connect _ | .disconnect | .ping _ | .createIndex _ | .insert _ _ => .ok ()
    | .find _ _ _ _ | .aggregate _ _ => .ok r.documents
    | .findOne _ _ | .findAndUpdate _ _ _ => .ok r.document
    | .delete _ _ => .ok r.deleted

structure Script where
  replies : List Reply
  isConnected : Bool
  clock : Moment
  requests : List (Request × Option Binary64)
  notices : List Notice

namespace Script

def start (replies : List Reply) (clock : Moment) : Script := ⟨replies, false, clock, [], []⟩

/-- Whether there is a connection after a request; what is closed is gone even if closing failed. -/
def connectedAfter (s : Script) (r : Reply) : Request → Bool
  | .connect _ => r.fault.isNone
  | .disconnect => false
  | _ => s.isConnected

/-- A script that has run out goes on with empty replies. -/
def answer : (c : Call) → Script → c.Answer × Script
  | .isConnected, s => (s.isConnected, s)
  | .drive request limit, s =>
    let reply := s.replies.headD .empty
    (reply.answer request,
      { s with
        replies := s.replies.tail
        isConnected := s.connectedAfter reply request
        requests := s.requests ++ [(request, limit)] })
  | .now, s => (s.clock, s)
  | .tell notices, s => ((), { s with notices := s.notices ++ notices })

def run {α : Type} (s : Script) (p : Program mongo α) : α × Script :=
  Program.run (I := mongo) answer p s

/-- The script with nothing recorded yet. -/
def fresh (s : Script) : Script := { s with requests := [], notices := [] }

end Script

end DeviceAlerts.Mongo
