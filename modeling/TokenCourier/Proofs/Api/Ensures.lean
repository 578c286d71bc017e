import TokenCourier.Api.Exchange

namespace TokenCourier

/-- Which requests the servers may be sent, and how they may answer them and change. -/
structure ServerContract (σ : Type) where
  Asks : Server → Request → Prop
  Answers : σ → Server → Request → Answer → σ → Prop

namespace Exchange

variable {α β σ : Type} {P : ServerContract σ} {st : σ}

def Ensures (P : ServerContract σ) : Exchange α → σ → (α → σ → Prop) → Prop
  | .done a, st, Q => Q a st
  | .log _ next, st, Q => next.Ensures P st Q
  | .ask s r next, st, Q =>
    P.Asks s r ∧ ∀ a st', P.Answers st s r a st' → (next a).Ensures P st' Q

theorem Ensures.mono {x : Exchange α} {Q R : α → σ → Prop} (hx : x.Ensures P st Q)
    (hq : ∀ a st, Q a st → R a st) : x.Ensures P st R := by
  induction x generalizing st with
  | done a => exact hq a st hx
  | log l next ih => exact ih hx
  | ask s r next ih => exact ⟨hx.1, fun a st' ha => ih a (hx.2 a st' ha)⟩

theorem Ensures.bind {x : Exchange α} {f : α → Exchange β} {Q : β → σ → Prop}
    (hx : x.Ensures P st fun a st => (f a).Ensures P st Q) : (x >>= f).Ensures P st Q := by
  change (x.bind f).Ensures P st Q
  induction x generalizing st with
  | done a => exact hx
  | log l next ih => exact ih hx
  | ask s r next ih => exact ⟨hx.1, fun a st' ha => ih a (hx.2 a st' ha)⟩

theorem Ensures.then {x : Exchange α} {f : α → Exchange β} {Q : α → σ → Prop} {R : β → σ → Prop}
    (hx : x.Ensures P st Q) (hf : ∀ a st, Q a st → (f a).Ensures P st R) :
    (x >>= f).Ensures P st R :=
  (hx.mono hf).bind

theorem ensures_info {f : Unit → Exchange α} {Q : α → σ → Prop} {text : String}
    (hf : (f ()).Ensures P st Q) : (info text >>= f).Ensures P st Q := hf

theorem ensures_error {f : Unit → Exchange α} {Q : α → σ → Prop} {text : String}
    (hf : (f ()).Ensures P st Q) : (error text >>= f).Ensures P st Q := hf

theorem ensures_call {s : Server} {r : Request} {read : Answer → Except ClientError α}
    {Q : Except ClientError α → σ → Prop} (hr : P.Asks s r)
    (hq : ∀ a st', P.Answers st s r a st' → Q (read a) st') :
    (call s (.ok r) read).Ensures P st Q :=
  ⟨hr, hq⟩

/-- What is ensured under a contract holds of every run against servers that keep it. -/
theorem Ensures.run {τ : Type} {serve : τ → Server → Request → Answer × τ} {R : τ → σ → Prop}
    {x : Exchange α} {w : τ} {Q : α → σ → Prop} (hx : x.Ensures P st Q) (hw : R w st)
    (hs : ∀ w st s r, R w st → P.Asks s r →
      ∃ st', P.Answers st s r (serve w s r).1 st' ∧ R (serve w s r).2 st') :
    ∃ st', R (x.run serve w).2.2 st' ∧ Q (x.run serve w).1 st' := by
  induction x generalizing w st with
  | done a => exact ⟨st, hw, hx⟩
  | log l next ih => exact ih hx hw
  | ask s r next ih =>
    obtain ⟨st', ha, hw'⟩ := hs w st s r hw hx.1
    exact ih _ (hx.2 _ _ ha) hw'

theorem ensures_advance (x : Exchange α) (Q : α → σ → Prop) :
    x.Ensures P st Q ↔
      match x.advance.2 with
      | .done a => Q a st
      | .asks s r next =>
        P.Asks s r ∧ ∀ a st', P.Answers st s r a st' → (next a).Ensures P st' Q := by
  induction x with
  | done a => exact Iff.rfl
  | log l next ih => exact ih
  | ask s r next => exact Iff.rfl

end Exchange

end TokenCourier
