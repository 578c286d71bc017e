import TokenCourier.Sync.Event
import TokenCourier.Sync.Reconcile

/-!
The manager reconciles once when it starts, then for every event that reaches it and whenever its
period has passed, one reconciliation at a time. A failure leaves a retry behind, a task of its own
that sleeps and then sends the failed key again; the next reconciliation, whatever its cause, gives
that task up. `step?` says what may happen next, at a given time; the order of what happens at one
time is left open. Times are in milliseconds.
-/

namespace TokenCourier

/-- Who sends an event: a retry, or one of any number of others. -/
inductive Sender where
  | retry (id : Nat)
  | outside (id : Nat)
deriving DecidableEq, Repr

structure Post where
  sender : Sender
  event : SyncEvent
deriving DecidableEq

structure Retry where
  id : Nat
  key : ObjectKey
  due : Nat
deriving DecidableEq

def Retry.post (r : Retry) : Post := ⟨.retry r.id, ⟨r.key, .retry⟩⟩

inductive Cause where
  | start
  | post (p : Post)
  | tick
deriving DecidableEq

inductive Phase where
  | fresh
  | waiting
  | reconciling (cause : Cause) (key : ObjectKey)
      (next : Answer → Exchange (Except SyncError Outcome))
  | stopped

/-- `inbox` is what was sent and not yet received, `blocked` what found no room there. `retries` are
the tasks that sleep, and `pending` is the one task that the next reconciliation gives up, whether
it still sleeps or not; `spawned` numbers the tasks. -/
structure Manager where
  cluster : ObjectKey
  watched : ObjectKey
  period : Nat
  phase : Phase := .fresh
  inbox : List Post := []
  blocked : List Post := []
  retries : List Retry := []
  pending : Option Nat := none
  spawned : Nat := 0
  tick : Nat := 0

inductive Note where
  | shown (e : Entry)
  | accepted (p : Post)
  | began (cause : Cause) (key : ObjectKey)
  | ended (key : ObjectKey) (r : Except SyncError Outcome)
  | armed (r : Retry)

def Note.entry? : Note → Option Entry
  | .shown e => some e
  | _ => none

namespace Manager

def capacity : Nat := 256

def retryDelay : Nat := retryAfter * 1000

/-- How late a tick may be and still count as on time. -/
def lateness : Nat := 5

def clockLimit : Nat := (Nat.pow 2 63 - 1) * 1000

def closed : LogLine := ⟨.error, "Failed to send event to SyncManager: channel closed"⟩

def logs (ls : List LogLine) : List Note := ls.map fun l => .shown (.log l)

/-- Senders come in as far as there is room, in the order in which they asked. -/
def letIn (m : Manager) : Manager × List Note :=
  let room := capacity - m.inbox.length
  ({ m with inbox := m.inbox ++ m.blocked.take room, blocked := m.blocked.drop room },
    (m.blocked.take room).map .accepted)

def send (m : Manager) (p : Post) : Manager × List Note :=
  match m.phase with
  | .stopped => (m, logs [closed])
  | _ => { m with blocked := m.blocked ++ [p] }.letIn

def stop (m : Manager) : Manager × List Note :=
  ({ m with phase := .stopped, inbox := [], blocked := [] }, logs (m.blocked.map fun _ => closed))

/-- The wait for the first tick; without a period, or with one beyond the clock, there is none. -/
def listen (m : Manager) (now : Nat) : Manager × List Note :=
  if 0 < m.period ∧ now + m.period < clockLimit then
    ({ m with phase := .waiting, tick := now + m.period }, [])
  else m.stop

def reconciled (key : ObjectKey) (o : Outcome) : LogLine :=
  ⟨.info, s!"Reconciled {key}: " ++ o.word⟩

def initialDone : LogLine := ⟨.info, "Initial sync complete, listening for events..."⟩

/-- A failure leaves a retry behind. -/
def conclude (m : Manager) (now : Nat) (key : ObjectKey) :
    Except SyncError Outcome → Manager × List Note
  | .ok o => (m, .ended key (.ok o) :: logs [reconciled key o])
  | .error e =>
    let r : Retry := ⟨m.spawned, key, now + retryDelay⟩
    ({ m with retries := m.retries ++ [r], pending := some r.id, spawned := m.spawned + 1 },
      .ended key (.error e) :: logs [e.report] ++ [.armed r])

def finish (m : Manager) (now : Nat) (cause : Cause) (key : ObjectKey)
    (r : Except SyncError Outcome) : Manager × List Note :=
  let (m, ns) := m.conclude now key r
  match cause with
  | .start =>
    let (m, es) := m.listen now
    (m, ns ++ logs [initialDone] ++ es)
  | _ => ({ m with phase := .waiting }, ns)

/-- Runs a reconciliation up to its next request. -/
def proceed (m : Manager) (now : Nat) (cause : Cause) (key : ObjectKey)
    (x : Exchange (Except SyncError Outcome)) : Manager × List Note :=
  match x.advance with
  | (lines, .asks s r next) =>
    ({ m with phase := .reconciling cause key next }, logs lines ++ [.shown (.sent s r)])
  | (lines, .done r) =>
    let (m, ns) := m.finish now cause key r
    (m, logs lines ++ ns)

/-- A retry that sleeps, or has not yet come in, is given up; one that has stays in the inbox. -/
def abandon (m : Manager) : Manager :=
  match m.pending with
  | none => m
  | some id =>
    { m with
      pending := none
      retries := m.retries.filter (·.id != id)
      blocked := m.blocked.filter (·.sender != .retry id) }

def begin (m : Manager) (now : Nat) (cause : Cause) (key : ObjectKey) : Manager × List Note :=
  let (m, came) := m.abandon.letIn
  let (m, ns) := m.proceed now cause key (Exchange.reconcile m.cluster key)
  (m, .began cause key :: came ++ ns)

def started (cluster : ObjectKey) : LogLine :=
  ⟨.info, s!"SyncManager started for {cluster}, performing initial sync..."⟩

def start (m : Manager) (now : Nat) : Manager × List Note :=
  let (n, ns) := m.begin now .start m.watched
  (n, logs [started m.cluster] ++ ns)

/-- When the tick after one that was due at `due` and taken at `now` is due. -/
def following (period due now : Nat) : Nat :=
  if due + lateness < now then now + period else due + period

inductive Action where
  | start
  | send (id : Nat) (e : SyncEvent)
  | fire (id : Nat)
  | receive
  | tick
  | answer (a : Answer)

def step? (m : Manager) (now : Nat) : Action → Option (Manager × List Note)
  | .start =>
    match m.phase with
    | .fresh => some (m.start now)
    | _ => none
  | .send id e => some (m.send ⟨.outside id, e⟩)
  | .fire id =>
    match m.retries.find? (·.id = id) with
    | some r =>
      if r.due ≤ now then
        some ({ m with retries := m.retries.filter (·.id != id) }.send r.post)
      else none
    | none => none
  | .receive =>
    match m.phase, m.inbox with
    | .waiting, p :: ps => some ({ m with inbox := ps }.begin now (.post p) p.event.key)
    | _, _ => none
  | .tick =>
    match m.phase with
    | .waiting =>
      if m.tick ≤ now then
        some ({ m with tick := following m.period m.tick now }.begin now .tick m.watched)
      else none
    | _ => none
  | .answer a =>
    match m.phase with
    | .reconciling cause key next => some (m.proceed now cause key (next a))
    | _ => none

def due? (m : Manager) (now : Nat) : Option Nat := (m.retries.find? (·.due ≤ now)).map (·.id)

def running (m : Manager) : Bool :=
  match m.phase with
  | .stopped => false
  | _ => true

/-- The sender waits for room. -/
def blocks (m : Manager) (id : Nat) : Bool := m.blocked.any (·.sender == Sender.outside id)

end Manager

end TokenCourier
