import TokenCourier.Agent
import TokenCourier.Rehearsal.Script

/-!
An agent in front of scripted servers on a virtual clock. Of what may happen at one time, the plan
comes first, then the manager's timer, the watcher, and the manager; the clock moves on only when
nothing may happen.
-/

namespace TokenCourier

structure Cue where
  time : Nat
  cluster : List Route
  hub : List Route
  event : Option SyncEvent

structure Mark where
  time : Nat
  part : Part
  entry : Entry

inductive Inbound where
  | signal (s : Signal) (feed : Feed)
  | bytes

/-- `reply` is the answer that the manager waits for, `inbound` what the watcher waits for, each
with the time when it comes; `feed` is what a stream still holds. `marks` are in reverse. -/
structure World where
  now : Nat := 0
  stage : Stage
  agent : Agent
  reply : Option (Nat × Answer) := none
  inbound : Option (Nat × Inbound) := none
  feed : Feed := ⟨[], true⟩
  cues : List Cue := []
  marks : List Mark := []

namespace World

def planner : Nat := 0

def blocked (w : World) : Bool := w.agent.manager.blocks planner

def inboundOf (q : Query) (a : Reply) : Inbound :=
  match q with
  | .page _ => .signal (.page (a.answer.object Page.decode?)) ⟨[], true⟩
  | .stream _ =>
    match a.feed with
    | .ok feed => .signal (.opened (.ok ())) feed
    | .error t => .signal (.opened (.error (.transport t))) ⟨[], true⟩

/-- Requests go out at once. A stream that has ended says so at once. -/
def meet (w : World) : Need → World
  | .answer s r =>
    let (reply, stage) := w.stage.serve s r
    { w with stage, reply := reply.map fun (a : Reply) => (w.now + a.delay, a.answer) }
  | .lack (.query q r) =>
    let (reply, stage) := w.stage.serve .cluster r
    { w with stage, inbound := reply.map fun a => (w.now + a.delay, inboundOf q a) }
  | .lack .bytes =>
    match w.feed.chunks with
    | c :: _ => { w with inbound := some (w.now + c.delay, .bytes) }
    | [] => if w.feed.hangs then w else { w with agent := w.agent.tell Follower.finish }

def take (w : World) (t : Turn) : World :=
  let marks := (t.shown.map fun (part, e) => (⟨w.now, part, e⟩ : Mark)).reverse ++ w.marks
  t.needs.foldl meet { w with agent := t.agent, marks }

def act (w : World) (x : Manager.Action) : Option World := (w.agent.act w.now x).map w.take

def cue (w : World) : Option World :=
  match w.cues with
  | c :: cues =>
    if c.time ≤ w.now ∧ !w.blocked then
      let stage : Stage := ⟨w.stage.cluster.addRoutes c.cluster, w.stage.hub.addRoutes c.hub⟩
      let w := { w with cues, stage }
      match c.event with
      | some e => w.act (.send planner e)
      | none => some w
    else none
  | [] => none

def answer (w : World) : Option World :=
  match w.reply with
  | some (due, a) => if due ≤ w.now then { w with reply := none }.act (.answer a) else none
  | none => none

def arrival (w : World) : Option World := do
  let (due, i) ← w.inbound
  guard (due ≤ w.now)
  let w := { w with inbound := none }
  match i with
  | .signal s feed => some { w with agent := w.agent.tell (·.hear s), feed }
  | .bytes =>
    match w.feed.chunks with
    | c :: chunks =>
      some { w with agent := w.agent.tell (·.receive c.bytes), feed := { w.feed with chunks } }
    | [] => some w

def turn (w : World) : Option World :=
  w.cue <|> w.act .start <|> (w.agent.fire w.now).map w.take <|> w.arrival
    <|> (w.agent.follow w.now).map w.take <|> w.answer <|> w.act .receive <|> w.act .tick

def next? (w : World) : Option Nat :=
  let cue := if w.blocked then none else w.cues.head?.map (·.time)
  ([cue, w.inbound.map (·.1), w.reply.map (·.1), w.agent.next?].filterMap id).min?

def ended (w : World) (stop now : Nat) : Bool :=
  w.cues.isEmpty && !w.blocked && decide (stop ≤ now)

/-- At most so many turns and moves of the clock, up to a time. -/
def run (stop : Nat) : Nat → World → World
  | 0, w => w
  | n + 1, w =>
    if w.ended stop w.now then w else
    match w.turn with
    | some w => w.run stop n
    | none =>
      match w.next? with
      | some now => if w.ended stop now then w else { w with now }.run stop n
      | none => w

def opening (stage : Stage) (manager : Manager) (cues : List Cue) (watching : Bool) : World :=
  let t := Agent.opening manager watching
  { stage, cues, agent := t.agent : World }.take t

def trace (w : World) (part : Part) : List (Nat × Entry) :=
  (w.marks.reverse.filter (·.part = part)).map fun m => (m.time, m.entry)

end World

end TokenCourier
