import TokenCourier.Watch.Inflow
import TokenCourier.Watch.Watcher

namespace TokenCourier

inductive Doing where
  | handling (items : List Item)
  | sending (items : List Item)
  | pausing (till : Nat) (items : List Item)
  | asking
  | reading

structure Follower where
  watcher : Watcher
  inflow : Inflow := {}
  doing : Doing := .handling []

inductive Lack where
  | query (q : Query) (r : Request)
  | bytes

namespace Follower

def due? (f : Follower) : Option Nat :=
  match f.doing with
  | .pausing t _ => some t
  | _ => none

def learn (f : Follower) (s : Signal) : Follower :=
  let (items, watch) := f.watcher.watch.hear s
  { f with watcher := { f.watcher with watch }, doing := .handling items }

def hear (f : Follower) (s : Signal) : Follower := { f with inflow := {} }.learn s

def receive (f : Follower) (bs : ByteArray) : Follower :=
  { f with inflow := f.inflow.receive bs, doing := .handling [] }

def finish (f : Follower) : Follower :=
  { f with inflow := f.inflow.finish, doing := .handling [] }

/-- Sends a query, or takes what cannot be sent as its answer. -/
def query (f : Follower) (q : Query) : Follower × Option Lack :=
  match q.request f.watcher.watched, q with
  | .error e, .page _ => (f.hear (.page (.error (.request e))), none)
  | .error e, .stream _ => (f.hear (.opened (.error (.request e))), none)
  | .ok r, q => ({ f with doing := .asking }, some (.query q r))

/-- Goes on once all is handled. -/
def wait (f : Follower) : Follower × Option Lack :=
  let (items, watch, q) := f.watcher.watch.ask
  let f := { f with watcher := { f.watcher with watch } }
  match items, q with
  | i :: is, _ => ({ f with doing := .handling (i :: is) }, none)
  | [], some q => f.query q
  | [], none =>
    match f.inflow.draw with
    | (.signal s, inflow) => ({ f with inflow }.learn s, none)
    | (.skip, inflow) => ({ f with inflow }, none)
    | (.more, inflow) => ({ f with inflow, doing := .reading }, some .bytes)

end Follower

end TokenCourier
