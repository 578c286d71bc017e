import Mathlib
import TokenCourier.Api.Exchange

namespace TokenCourier

deriving instance DecidableEq for Response

structure Asked where
  server : Server
  request : Request
  answer : Answer

inductive Said where
  | log (l : LogLine)
  | asked (q : Asked)

namespace Said

def entry : Said → Entry
  | .log l => .log l
  | .asked q => .sent q.server q.request

def asked? : Said → Option Asked
  | .log _ => none
  | .asked q => some q

end Said

def calls (ss : List Said) : List Asked := ss.filterMap Said.asked?

theorem calls_append (ss ts : List Said) : calls (ss ++ ts) = calls ss ++ calls ts :=
  List.filterMap_append

namespace Exchange

variable {α β σ : Type} {x y z : Exchange α} {ss ts : List Said}

/-- `x.RunsTo ss y`: with the answers recorded in `ss`, the program `x` says `ss` and goes on as
`y`. -/
inductive RunsTo : Exchange α → List Said → Exchange α → Prop where
  | refl (x : Exchange α) : RunsTo x [] x
  | log {l next ss y} : RunsTo next ss y → RunsTo (.log l next) (.log l :: ss) y
  | ask {s r next ss y} (a : Answer) : RunsTo (next a) ss y →
      RunsTo (.ask s r next) (.asked ⟨s, r, a⟩ :: ss) y

theorem RunsTo.trans (hx : x.RunsTo ss y) (hy : y.RunsTo ts z) : x.RunsTo (ss ++ ts) z := by
  induction hx with
  | refl => exact hy
  | log _ ih => exact .log (ih hy)
  | ask a _ ih => exact .ask a (ih hy)

/-- What is left of a program at a pause. -/
def Pause.rest : Pause α → Exchange α
  | .done a => .done a
  | .asks s r next => .ask s r next

theorem runsTo_advance (x : Exchange α) : x.RunsTo (x.advance.1.map .log) x.advance.2.rest := by
  induction x with
  | done a => exact .refl _
  | log l next ih => exact .log ih
  | ask s r next => exact .refl _

theorem runsTo_bind {f : α → Exchange β} {b : β} (h : (x >>= f).RunsTo ss (.done b)) :
    ∃ ts a us, ss = ts ++ us ∧ x.RunsTo ts (.done a) ∧ (f a).RunsTo us (.done b) := by
  change (x.bind f).RunsTo ss (.done b) at h
  induction x generalizing ss with
  | done a => exact ⟨[], a, ss, rfl, .refl _, h⟩
  | log l next ih =>
    cases h with
    | log h =>
      obtain ⟨ts, a, us, rfl, ht, hu⟩ := ih h
      exact ⟨_, a, us, rfl, .log ht, hu⟩
  | ask s r next ih =>
    cases h with
    | ask ans h =>
      obtain ⟨ts, a, us, rfl, ht, hu⟩ := ih ans h
      exact ⟨_, a, us, rfl, .ask ans ht, hu⟩

section Runs

variable (serve : σ → Server → Request → Answer × σ)

def transcript : Exchange α → σ → List Said
  | .done _, _ => []
  | .log l next, st => .log l :: next.transcript st
  | .ask s r next, st =>
    .asked ⟨s, r, (serve st s r).1⟩ :: (next (serve st s r).1).transcript (serve st s r).2

theorem transcript_runsTo (x : Exchange α) (st : σ) :
    x.RunsTo (x.transcript serve st) (.done (x.run serve st).1) := by
  induction x generalizing st with
  | done a => exact .refl _
  | log l next ih => exact .log (ih st)
  | ask s r next ih => exact .ask _ (ih _ _)

theorem transcript_entries (x : Exchange α) (st : σ) :
    (x.transcript serve st).map Said.entry = (x.run serve st).2.1 := by
  induction x generalizing st with
  | done a => rfl
  | log l next ih => exact congrArg _ (ih st)
  | ask s r next ih => exact congrArg _ (ih _ _)

theorem run_bind (x : Exchange α) (f : α → Exchange β) (st : σ) :
    ((x >>= f).run serve st).1 = ((f (x.run serve st).1).run serve (x.run serve st).2.2).1 := by
  induction x generalizing st with
  | done a => rfl
  | log l next ih => exact ih st
  | ask s r next ih => exact ih _ _

end Runs

/-- Whatever the servers answer, `C` holds of what the program asks and of its result. -/
def Yields (x : Exchange α) (C : List Asked → α → Prop) : Prop :=
  ∀ ss a, x.RunsTo ss (.done a) → C (calls ss) a

variable {C : List Asked → α → Prop} {D : List Asked → β → Prop} {f : α → Exchange β}

theorem yields_done {a : α} (h : C [] a) : (Exchange.done a).Yields C := by
  intro ss b hg
  cases hg
  exact h

theorem Yields.mono {E : List Asked → α → Prop} (hx : x.Yields C) (h : ∀ qs a, C qs a → E qs a) :
    x.Yields E :=
  fun ss a hg => h _ a (hx ss a hg)

theorem Yields.bind (hx : x.Yields C)
    (hf : ∀ qs a, C qs a → (f a).Yields fun ps b => D (qs ++ ps) b) : (x >>= f).Yields D := by
  intro ss b hg
  obtain ⟨ts, a, us, rfl, ht, hu⟩ := runsTo_bind hg
  rw [calls_append]
  exact hf _ a (hx ts a ht) us b hu

theorem yields_log {l : LogLine} (h : x.Yields C) : (Exchange.log l x).Yields C := by
  intro ss b hg
  cases hg with
  | log hg =>
    have hc := h _ b hg
    exact hc

theorem yields_info {f : Unit → Exchange β} {text : String} (hf : (f ()).Yields D) :
    (info text >>= f).Yields D :=
  yields_log hf

theorem yields_error {f : Unit → Exchange β} {text : String} (hf : (f ()).Yields D) :
    (error text >>= f).Yields D :=
  yields_log hf

/-- Either the request could be built, and was answered once, or nothing was asked. -/
inductive Called (s : Server) (req : Except RequestFault Request)
    (read : Answer → Except ClientError α) : List Asked → Except ClientError α → Prop where
  | unbuilt {e : RequestFault} : req = .error e → Called s req read [] (.error (.request e))
  | answered {r : Request} (a : Answer) : req = .ok r → Called s req read [⟨s, r, a⟩] (read a)

theorem yields_call (s : Server) (req : Except RequestFault Request)
    (read : Answer → Except ClientError α) : (call s req read).Yields (Called s req read) := by
  intro ss b hg
  cases req with
  | error f =>
    cases hg
    exact .unbuilt rfl
  | ok r =>
    cases hg with
    | ask a hg =>
      cases hg
      exact .answered a rfl

end Exchange

end TokenCourier
