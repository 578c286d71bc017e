import TokenCourier.Sync.Manager
import TokenCourier.Watch.Follower

namespace TokenCourier

structure Agent where
  manager : Manager
  follower : Option Follower := none

inductive Part where
  | manager | watcher
deriving DecidableEq, Repr

/-- What is waited for: the answer to a request of the manager, or what a watcher lacks. -/
inductive Need where
  | answer (s : Server) (r : Request)
  | lack (l : Lack)

structure Turn where
  agent : Agent
  shown : List (Part × Entry) := []
  needs : List Need := []

namespace Agent

def watcher : Nat := 1

def answers (es : List Entry) : List Need :=
  es.filterMap fun
    | .sent s r => some (.answer s r)
    | .log _ => none

def act (a : Agent) (now : Nat) (x : Manager.Action) : Option Turn := do
  let (manager, ns) ← a.manager.step? now x
  let es := ns.filterMap Note.entry?
  some ⟨{ a with manager }, es.map (.manager, ·), answers es⟩

def fire (a : Agent) (now : Nat) : Option Turn := do
  let id ← a.manager.due? now
  a.act now (.fire id)

def lacking (a : Agent) (f : Follower) : Option Lack → Turn
  | none => { agent := { a with follower := some f } }
  | some (.query q r) =>
    ⟨{ a with follower := some f }, [(.watcher, .sent .cluster r)], [.lack (.query q r)]⟩
  | some .bytes => ⟨{ a with follower := some f }, [], [.lack .bytes]⟩

def handle (a : Agent) (now : Nat) (f : Follower) (i : Item) (is : List Item) : Option Turn :=
  let (reaction, watcher) := f.watcher.react now i
  let f := { f with watcher }
  match reaction with
  | .nothing => some { agent := { a with follower := some { f with doing := .handling is } } }
  | .send e =>
    { a with follower := some { f with doing := .sending is } }.act now (.send Agent.watcher e)
  | .pause l length =>
    some {
      agent := { a with follower := some { f with doing := .pausing (now + length) is } }
      shown := [(.watcher, .log l)] }

def follow (a : Agent) (now : Nat) : Option Turn := do
  let f ← a.follower
  let go (is : List Item) : Option Turn :=
    some { agent := { a with follower := some { f with doing := .handling is } } }
  match f.doing with
  | .handling [] =>
    let (f, l) := f.wait
    some (a.lacking f l)
  | .handling (i :: is) => a.handle now f i is
  | .sending is => if a.manager.blocks watcher then none else go is
  | .pausing till is => if till ≤ now then go is else none
  | .asking | .reading => none

/-- What an agent does by itself; `none` if it only waits. -/
def turn (a : Agent) (now : Nat) : Option Turn :=
  a.act now .start <|> a.fire now <|> a.follow now <|> a.act now .receive <|> a.act now .tick

def next? (a : Agent) : Option Nat :=
  let tick := match a.manager.phase with
    | .waiting => some a.manager.tick
    | _ => none
  (a.manager.retries.map (·.due) ++ [a.follower.bind (·.due?), tick].filterMap id).min?

def tell (a : Agent) (f : Follower → Follower) : Agent := { a with follower := a.follower.map f }

def opening (manager : Manager) (watching : Bool) : Turn :=
  if watching then
    { agent := { manager, follower := some { watcher := { watched := manager.watched } } }
      shown := [(.watcher, .log (Watcher.started manager.watched))] }
  else { agent := { manager } }

end Agent

end TokenCourier
