import TokenCourier.Api.Exchange

namespace TokenCourier

structure Chunk where
  delay : Nat
  bytes : ByteArray
deriving Inhabited

structure Feed where
  chunks : List Chunk
  hangs : Bool
deriving Inhabited

inductive Content where
  | answer (a : Answer)
  | feed (f : Feed)
deriving Inhabited

structure Reply where
  delay : Nat
  content : Content
deriving Inhabited

namespace Reply

def answer (r : Reply) : Answer :=
  match r.content with
  | .answer a => a
  | .feed f => .ok ⟨200, f.chunks.foldl (fun bs c => bs ++ c.bytes) ByteArray.empty⟩

def feed (r : Reply) : Except String Feed :=
  match r.content with
  | .feed f => .ok f
  | .answer (.ok a) => .ok ⟨[⟨0, a.body⟩], false⟩
  | .answer (.error t) => .error t

end Reply

/-- Replies are used up in turn; the last one stays. -/
structure Route where
  method : String
  path : String
  replies : List Reply

/-- A server that cannot be reached only has what the transport says of it. -/
structure Script where
  unreachable : Option String := none
  routes : List Route := []
  lists : List Reply := []
  watches : List Reply := []
deriving Inhabited

namespace Script

def absentText : String :=
  "\x7b\"kind\":\"Status\",\"apiVersion\":\"v1\",\"status\":\"Failure\","
    ++ "\"message\":\"resource \\\"unknown\\\" not found\",\"reason\":\"NotFound\",\"code\":404\x7d"

def absent : Reply := ⟨0, .answer (.ok ⟨404, absentText.toUTF8⟩)⟩

/-- A later route takes the place of an earlier one. -/
def addRoute (s : Script) (r : Route) : Script :=
  { s with routes :=
      s.routes.filter (fun q => q.method != r.method || q.path != r.path) ++ [r] }

def addRoutes (s : Script) (rs : List Route) : Script := rs.foldl addRoute s

def serveRoute (method path : String) : List Route → Reply × List Route
  | [] => (absent, [])
  | r :: rs =>
    if r.method = method ∧ r.path = path then
      match r.replies with
      | [] => (absent, r :: rs)
      | [a] => (a, { r with replies := [a] } :: rs)
      | a :: as => (a, { r with replies := as } :: rs)
    else
      let (a, rs) := serveRoute method path rs
      (a, r :: rs)

def serve (s : Script) (r : Request) : Option Reply × Script :=
  if let some t := s.unreachable then (some ⟨0, .answer (.error t)⟩, s)
  else if r.hasParameter "watch" then
    match s.watches with
    | [] => (none, s)
    | a :: as => (some a, { s with watches := as })
  else if r.hasParameter "limit" then
    match s.lists with
    | [] => (none, s)
    | a :: as => (some a, { s with lists := as })
  else
    let (a, routes) := serveRoute r.method.word r.path s.routes
    (some a, { s with routes := routes })

end Script

structure Stage where
  cluster : Script := {}
  hub : Script := {}
deriving Inhabited

namespace Stage

def serve (st : Stage) : Server → Request → Option Reply × Stage
  | .cluster, r =>
    let (a, s) := st.cluster.serve r
    (a, { st with cluster := s })
  | .hub, r =>
    let (a, s) := st.hub.serve r
    (a, { st with hub := s })

/-- Answers at once; a request that is never answered fails. -/
def answer (st : Stage) (s : Server) (r : Request) : Answer × Stage :=
  let (a, st) := st.serve s r
  (a.elim (.error "no answer") Reply.answer, st)

end Stage

end TokenCourier
