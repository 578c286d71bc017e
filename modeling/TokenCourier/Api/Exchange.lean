import TokenCourier.Api.Answer

namespace TokenCourier

inductive Server where
  | cluster | hub
deriving DecidableEq, Repr

inductive Level where
  | info | warn | error
deriving DecidableEq, Repr

def Level.word : Level → String
  | .info => "INFO"
  | .warn => "WARN"
  | .error => "ERROR"

structure LogLine where
  level : Level
  text : String
deriving DecidableEq

instance : ToString LogLine := ⟨fun l => l.level.word ++ " " ++ l.text⟩

inductive Place where
  | program | probe | hubClient | controller | manager | watcher
deriving DecidableEq, Repr

def Place.text : Place → String
  | .program => "agent_token_sync"
  | .probe => "agent_token_sync::kubernetes::discovery"
  | .hubClient => "agent_token_sync::kubernetes::client"
  | .controller => "agent_token_sync::controller"
  | .manager => "agent_token_sync::sync"
  | .watcher => "agent_token_sync::watchers"

/-- A log line with the place in the program where it is logged. -/
structure Remark where
  place : Place
  line : LogLine
deriving DecidableEq

instance : ToString Remark :=
  ⟨fun r => s!"{r.line.level.word} {r.place.text}: {r.line.text}"⟩

inductive Exchange (α : Type) where
  | done (a : α)
  | log (l : LogLine) (next : Exchange α)
  | ask (s : Server) (r : Request) (next : Answer → Exchange α)

inductive Entry where
  | log (l : LogLine)
  | sent (s : Server) (r : Request)
deriving DecidableEq

namespace Exchange

variable {α β σ : Type}

def bind : Exchange α → (α → Exchange β) → Exchange β
  | .done a, f => f a
  | .log l next, f => .log l (next.bind f)
  | .ask s r next, f => .ask s r fun a => (next a).bind f

instance : Monad Exchange where
  pure := .done
  bind := bind

theorem bind_done (x : Exchange α) : x.bind .done = x := by
  induction x with
  | done a => rfl
  | log l next ih => exact congrArg (Exchange.log l) ih
  | ask s r next ih => exact congrArg (Exchange.ask s r) (funext ih)

theorem bind_bind {γ : Type} (x : Exchange α) (f : α → Exchange β) (g : β → Exchange γ) :
    (x.bind f).bind g = x.bind fun a => (f a).bind g := by
  induction x with
  | done a => rfl
  | log l next ih => exact congrArg (Exchange.log l) ih
  | ask s r next ih => exact congrArg (Exchange.ask s r) (funext ih)

instance : LawfulMonad Exchange := .mk' Exchange bind_done (fun _ _ => rfl) bind_bind

def info (text : String) : Exchange Unit := .log ⟨.info, text⟩ (.done ())

def warn (text : String) : Exchange Unit := .log ⟨.warn, text⟩ (.done ())

def error (text : String) : Exchange Unit := .log ⟨.error, text⟩ (.done ())

def call (s : Server) (r : Except RequestFault Request) (read : Answer → Except ClientError α) :
    Exchange (Except ClientError α) :=
  match r with
  | .error f => .done (.error (.request f))
  | .ok r => .ask s r fun a => .done (read a)

/-- A program up to the next thing it asks. -/
inductive Pause (α : Type) where
  | done (a : α)
  | asks (s : Server) (r : Request) (next : Answer → Exchange α)

def advance : Exchange α → List LogLine × Pause α
  | .done a => ([], .done a)
  | .log l next => (l :: next.advance.1, next.advance.2)
  | .ask s r next => ([], .asks s r next)

def run (serve : σ → Server → Request → Answer × σ) : Exchange α → σ → α × List Entry × σ
  | .done a, st => (a, [], st)
  | .log l next, st =>
    let (a, es, st) := next.run serve st
    (a, .log l :: es, st)
  | .ask s r next, st =>
    let (answer, st) := serve st s r
    let (a, es, st) := (next answer).run serve st
    (a, .sent s r :: es, st)

end Exchange

end TokenCourier
