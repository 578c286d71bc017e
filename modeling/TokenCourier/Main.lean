import TokenCourier.Agent
import TokenCourier.Http.Message
import TokenCourier.Program.Start
import Std.Async.DNS
import Std.Async.Signal
import Std.Async.TCP
import Std.Time.DateTime.Timestamp

namespace TokenCourier.Main

open Std.Async Std.Net

/- The machine -/

def fault : IO.Error → FileFault
  | .noFileOrDirectory .. | .noSuchThing .. => .missing
  | .inappropriateType .. => .directory
  | .permissionDenied .. => .denied
  | _ => .notDirectory

def content (path : String) : IO (Except FileFault (List UInt8)) := do
  try return .ok (← IO.FS.readBinFile path).toList
  catch e => return .error (fault e)

def machine : IO Machine := do
  let values ← Starting.variableNames.mapM fun n => return (n, ← IO.getEnv n)
  let lookup (n : String) := (values.lookup n).join
  let read (paths : List String) : IO Files := do
    let found ← paths.mapM fun p => return (p, ← content p)
    return fun p => (found.lookup p).getD (.error .missing)
  let now := (← Std.Time.Timestamp.now).toSecondsSinceUnixEpoch.val
  let files ← read (Starting.paths ⟨fun _ => .error .missing, lookup, now⟩)
  return ⟨← read (Starting.paths ⟨files, lookup, now⟩), lookup, now⟩

/- Servers -/

structure Peer where
  url : Uri
  headers : List (String × String)

def unconnected : String := "client error (Connect)"

def broken : String := "client error (SendRequest)"

def place (authority : String) : String × UInt16 :=
  let host := ((authority.splitOn "@").getLast?).getD authority
  match (host.splitOn ":").reverse with
  | n :: h :: hs =>
    if n.toList.all Char.isDigit then
      (String.intercalate ":" (h :: hs).reverse, ((n.toNat?).getD 80).toUInt16)
    else (host, 80)
  | _ => (host, 80)

def dial (u : Uri) : Async TCP.Socket.Client := do
  if u.scheme ≠ some "http" then throw (IO.userError unconnected)
  let (host, number) := place u.authority
  let bare := String.ofList (host.toList.filter fun c => c ≠ '[' && c ≠ ']')
  let found ← DNS.getAddrInfo bare (toString number)
  match found[0]? with
  | none => throw (IO.userError unconnected)
  | some address =>
    let client ← TCP.Socket.Client.mk
    client.connect <|
      match address with
      | .v4 a => .v4 ⟨a, number⟩
      | .v6 a => .v6 ⟨a, number⟩
    return client

structure Stream where
  client : TCP.Socket.Client
  incoming : Http.Incoming

def pieceSize : UInt64 := 65536

def more (s : Stream) : Async Stream := do
  return { s with incoming := s.incoming.receive (← s.client.recv? pieceSize) }

partial def untilHead (s : Stream) : Async Stream := do
  if s.incoming.head.isSome || s.incoming.ended then return s else untilHead (← more s)

partial def untilEnd (s : Stream) : Async Stream := do
  if s.incoming.ended then return s else untilEnd (← more s)

def opened (p : Peer) (r : Request) : Async (Except String Stream) := do
  match ← (do return some (← dial p.url)) <|> pure none with
  | none => return .error unconnected
  | some client =>
    try
      client.send (Http.requestBytes p.url.authority p.url.path p.headers r)
      let s ← untilHead ⟨client, {}⟩
      return if s.incoming.head.isSome then .ok s else .error broken
    catch _ => return .error broken

def answer (p : Peer) (r : Request) : Async Answer := do
  match ← opened p r with
  | .error t => return .error t
  | .ok s =>
    try
      let s ← untilEnd s
      return (s.incoming.response?).elim (.error broken) .ok
    catch _ => return .error broken

/- The agent -/

inductive Heard where
  | signal (s : Signal) (stream : Option Stream)
  | bytes (bs : ByteArray) (stream : Stream)
  | ended

def heard (p : Peer) (stream : Option Stream) : Lack → Async Heard
  | .query (.page _) r => do
    return .signal (.page ((← answer p r).object Page.decode?)) none
  | .query (.stream _) r => do
    match ← opened p r with
    | .ok s => return .signal (.opened (.ok ())) (some s)
    | .error t => return .signal (.opened (.error (.transport t))) none
  | .bytes => do
    match stream with
    | none => return .ended
    | some s =>
      let rec go (s : Stream) : Nat → Async Heard
        | 0 => return .bytes ByteArray.empty s
        | n + 1 => do
          let (bs, incoming) := s.incoming.takeBody
          if !bs.isEmpty then return .bytes bs { s with incoming }
          else if incoming.ended then return .ended
          else go (← more s <|> pure { s with incoming := s.incoming.receive none }) n
      go s 1024

structure Running where
  cluster : Peer
  hub : Peer
  filter : LogFilter
  agent : Agent
  reply : Option (AsyncTask Answer) := none
  inbound : Option (AsyncTask Heard) := none
  stream : Option Stream := none

namespace Running

def peer (r : Running) : Server → Peer
  | .cluster => r.cluster
  | .hub => r.hub

def show? (r : Running) (part : Part) : Entry → Option Remark
  | .sent .. => none
  | .log l =>
    let remark : Remark := ⟨if part = .manager then .manager else .watcher, l⟩
    if r.filter.shows remark then some remark else none

def meet (r : Running) : Need → IO Running
  | .answer s q => return { r with reply := some (← Async.toIO (Main.answer (r.peer s) q)) }
  | .lack l => return { r with inbound := some (← Async.toIO (heard r.cluster r.stream l)) }

def take (r : Running) (t : Turn) : IO Running := do
  (t.shown.filterMap fun (part, e) => r.show? part e).forM fun remark => IO.println remark
  (← IO.getStdout).flush
  t.needs.foldlM meet { r with agent := t.agent }

def deliver (r : Running) (now : Nat) : IO Running := do
  let mut r := r
  if let some task := r.reply then
    if ← IO.hasFinished task then
      let a ← try task.block catch _ => pure (.error broken)
      if let some t := { r with reply := none }.agent.act now (.answer a) then
        r ← { r with reply := none }.take t
  if let some task := r.inbound then
    if ← IO.hasFinished task then
      let h ← try task.block catch _ => pure .ended
      r :=
        match h with
        | .signal s stream =>
          { r with inbound := none, stream, agent := r.agent.tell (·.hear s) }
        | .bytes bs stream =>
          { r with inbound := none, stream := some stream, agent := r.agent.tell (·.receive bs) }
        | .ended =>
          { r with inbound := none, stream := none, agent := r.agent.tell Follower.finish }
  return r

partial def settle (r : Running) (now : Nat) : IO Running := do
  match r.agent.turn now with
  | some t => settle (← r.take t) now
  | none => return r

/-- How long the agent is left alone between two looks at it, in milliseconds. -/
def rest : UInt32 := 10

/-- Goes on until it is told to stop, or the manager stops by itself. -/
partial def go (r : Running) (start : Nat) (told : IO Bool) : IO Bool := do
  if ← told then return true
  let now := (← IO.monoMsNow) - start
  let r ← (← r.deliver now).settle now
  if !r.agent.manager.running then return false
  IO.sleep rest
  r.go start told

end Running

/- The program -/

def ask {α : Type} (cluster hub : Peer) : Exchange α → IO (α × List Entry)
  | .done a => return (a, [])
  | .log l next => do
    let (a, es) ← ask cluster hub next
    return (a, .log l :: es)
  | .ask s r next => do
    let a ← (answer (if s = .hub then hub else cluster) r).block
    let (a, es) ← ask cluster hub (next a)
    return (a, .sent s r :: es)

partial def waitUntil (told : IO Bool) : IO Unit := do
  if ← told then return
  IO.sleep Running.rest
  waitUntil told

def stopSignals : IO (IO Bool) := do
  let tasks ← [Signal.sigint, .sigterm].mapM fun s => do (← Signal.Waiter.mk s false).wait
  return tasks.anyM fun t => IO.hasFinished t

def peer (m : Machine) (c : Connection) : Peer := ⟨c.url, c.user.headers m⟩

def run : IO UInt32 := do
  let m ← machine
  let filter := LogFilter.ofVariable (m.lookup LogFilter.source)
  let shown (rs : List Remark) : IO Unit :=
    (rs.filter filter.shows).forM fun r => IO.println r
  let failed (r : Report) : IO UInt32 := do
    IO.eprint r.text
    return 1
  let (found, remarks) := Starting.outcome (Starting.setting m)
  shown remarks
  match found with
  | .error r => failed r
  | .ok setting =>
    let told ← stopSignals
    match setting.hub with
    | none =>
      waitUntil told
      return 0
    | some hub =>
      let (cluster, hub) := (peer m setting.cluster, peer m hub)
      let (_, es) ← ask cluster hub Exchange.checkInfrastructure
      let probed := es.filterMap fun
        | .log l => some l
        | .sent .. => none
      let (made, remarks) := Starting.outcome (Starting.controller m setting probed)
      shown remarks
      match made with
      | .error r => failed r
      | .ok none => return 0
      | .ok (some c) =>
        let t := Agent.opening c.manager true
        let r ← ({ cluster, hub, filter, agent := t.agent } : Running).take t
        if ← r.go (← IO.monoMsNow) told then
          shown [stopping]
          return 0
        else return 101

end TokenCourier.Main

def main : IO UInt32 := TokenCourier.Main.run
