import TokenCourier.Proofs.Api.Similar
import TokenCourier.Proofs.Manager.Run

namespace TokenCourier

namespace View

variable (V : View)

def note? : Note → Option Note
  | .shown e => (V.entry? e).map .shown
  | n => some n

/-- The part of a history that the view shows, with the times. -/
def observed (h : History) : History := h.filterMap fun n => (V.note? n.2).map (n.1, ·)

variable {V} {h h' g g' : History}

theorem observed_append (hh : V.observed h = V.observed h') (hg : V.observed g = V.observed g') :
    V.observed (h ++ g) = V.observed (h' ++ g') := by
  rw [observed, List.filterMap_append, ← observed, ← observed, hh, hg, observed, observed, observed,
    List.filterMap_append]

theorem observed_logs (t : Nat) (ls : List LogLine) :
    V.observed (Manager.stamp t (Manager.logs ls))
      = Manager.stamp t (Manager.logs (V.lines ls)) := by
  induction ls with
  | nil => rfl
  | cons l ls ih =>
    by_cases hl : V.skips l = true <;>
      simpa [observed, Manager.stamp, Manager.logs, note?, entry?, lines, hl] using ih

end View

namespace History

def ask (q : Option (Server × Request)) : Nat × Note → Option (Server × Request)
  | (_, .shown (.sent s r)) => some (s, r)
  | _ => q

def asked? (h : History) : Option (Server × Request) := h.foldl ask none

theorem asked?_sent (h : History) (t : Nat) (s : Server) (r : Request) :
    asked? (h ++ [(t, .shown (.sent s r))]) = some (s, r) := by
  rw [asked?, List.foldl_append]
  rfl

theorem asked?_logs (h : History) (t : Nat) (ls : List LogLine) :
    asked? (h ++ Manager.stamp t (Manager.logs ls)) = h.asked? := by
  rw [asked?, List.foldl_append, ← asked?]
  induction ls with
  | nil => rfl
  | cons l ls ih => exact ih

theorem asked?_accepted (h : History) (t : Nat) (ps : List Post) :
    asked? (h ++ Manager.stamp t (ps.map .accepted)) = h.asked? := by
  rw [asked?, List.foldl_append, ← asked?]
  induction ps with
  | nil => rfl
  | cons p ps ih => exact ih

end History

namespace Manager

/-- Reconciliations wait for answers to requests that look alike, or there is none under way. -/
inductive Paired (V : View) (h h' : History) : Phase → Phase → Prop where
  | same {p} : (∀ c k f, p ≠ .reconciling c k f) → Paired V h h' p p
  | reconciling {s r q f g} (c k) : h.asked? = some (s, r) → h'.asked? = some (s, q) →
      V.request s r = V.request s q →
      (∀ a b, V.Swaps s r a b → Exchange.Similar V Eq (f a) (g b)) →
      Paired V h h' (.reconciling c k f) (.reconciling c k g)

structure SimilarManagers (V : View) (h h' : History) (m m' : Manager) : Prop where
  rest : m' = { m with phase := m'.phase }
  observed : V.observed h = V.observed h'
  phase : Paired V h h' m.phase m'.phase

variable {V : View} {h h' : History} {m m' : Manager} {t : Nat} {c : Cause} {k : ObjectKey}
  {x y : Exchange (Except SyncError Outcome)}

abbrev SimilarAfter (V : View) (h h' : History) (t : Nat) (x y : Manager × List Note) : Prop :=
  SimilarManagers V (h ++ stamp t x.2) (h' ++ stamp t y.2) x.1 y.1

theorem SimilarAfter.after {ps ps' ns ns' : List Note} {n n' : Manager}
    (hn : SimilarAfter V (h ++ stamp t ps) (h' ++ stamp t ps') t (n, ns) (n', ns')) :
    SimilarAfter V h h' t (n, ps ++ ns) (n', ps' ++ ns') := by
  rw [SimilarAfter, stamp_append, stamp_append, ← List.append_assoc, ← List.append_assoc]
  exact hn

theorem finish_rest (m : Manager) (p : Phase) (r : Except SyncError Outcome) :
    ({ m with phase := p } : Manager).finish t c k r = m.finish t c k r := by
  cases c <;> cases r <;> simp [finish, conclude, listen, stop]

theorem finish_settled (r : Except SyncError Outcome) (c' : Cause) (k' : ObjectKey)
    (f : Answer → Exchange (Except SyncError Outcome)) :
    (m.finish t c k r).1.phase ≠ .reconciling c' k' f := by
  have hw : (m.finish t c k r).1.phase = .waiting ∨
      c = .start ∧ (m.finish t c k r).1.phase = .stopped := finish_phase r
  obtain hp | ⟨-, hp⟩ := hw <;> simp [hp]

theorem proceed_asks {ls : List LogLine} {s : Server} {r : Request}
    {f : Answer → Exchange (Except SyncError Outcome)} (hx : x.advance = (ls, .asks s r f)) :
    m.proceed t c k x
      = ({ m with phase := .reconciling c k f }, logs ls ++ [.shown (.sent s r)]) := by
  rw [proceed, hx]

theorem proceed_done {ls : List LogLine} {r : Except SyncError Outcome}
    (hx : x.advance = (ls, .done r)) :
    m.proceed t c k x = ((m.finish t c k r).1, logs ls ++ (m.finish t c k r).2) := by
  rw [proceed, hx]

/-- Both stop at requests that look alike, or both end. -/
theorem proceed_similar (ht : V.observed h = V.observed h') (p : Phase)
    (hx : Exchange.Similar V Eq x y) :
    SimilarAfter V h h' t (m.proceed t c k x)
      (({ m with phase := p } : Manager).proceed t c k y) := by
  obtain ⟨hl, hr⟩ := hx.advance
  have hs : V.observed (h ++ stamp t (logs x.advance.1))
      = V.observed (h' ++ stamp t (logs y.advance.1)) :=
    View.observed_append ht (by rw [View.observed_logs, hl, View.observed_logs])
  cases ha : x.advance.2 with
  | done r =>
    cases hb : y.advance.2 with
    | done r' =>
      rw [ha, hb] at hr
      cases hr with
      | done hr =>
        subst hr
        rw [proceed_done (Prod.ext rfl ha), proceed_done (Prod.ext rfl hb), finish_rest m p]
        exact SimilarAfter.after ⟨rfl, View.observed_append hs rfl, .same (finish_settled r)⟩
    | asks s q g =>
      rw [ha, hb] at hr
      cases hr
  | asks s r f =>
    cases hb : y.advance.2 with
    | done r' =>
      rw [ha, hb] at hr
      cases hr
    | asks s' q g =>
      rw [ha, hb] at hr
      cases hr with
      | ask hq hf =>
        rw [proceed_asks (Prod.ext rfl ha), proceed_asks (Prod.ext rfl hb)]
        apply SimilarAfter.after
        refine ⟨rfl, View.observed_append hs ?_, .reconciling c k
          (History.asked?_sent _ t s r) (History.asked?_sent _ t s q) hq hf⟩
        simp [View.observed, stamp, View.note?, View.entry?, hq]

theorem Paired.mono {g g' : History} {p p' : Phase} (hp : Paired V h h' p p')
    (hg : g.asked? = h.asked?) (hg' : g'.asked? = h'.asked?) : Paired V g g' p p' := by
  cases hp with
  | same hn => exact .same hn
  | reconciling c k hs hs' hq hf => exact .reconciling c k (hg.trans hs) (hg'.trans hs') hq hf

theorem Paired.stopped {p p' : Phase} (hp : Paired V h h' p p') : p = .stopped ↔ p' = .stopped := by
  cases hp with
  | same _ => rfl
  | reconciling => simp

theorem SimilarManagers.same (ha : SimilarManagers V h h' m m')
    (hp : ∀ c k f, m.phase ≠ .reconciling c k f) : m' = m := by
  obtain ⟨hr, -, hq⟩ := ha
  rw [hr]
  generalize m'.phase = p' at hq ⊢
  generalize hm : m.phase = p at hq hp
  cases hq with
  | same _ => rw [← hm]
  | reconciling c k => exact absurd rfl (hp c k _)

theorem SimilarManagers.waiting {f : Answer → Exchange (Except SyncError Outcome)}
    (ha : SimilarManagers V h h' m m') (hp : m.phase = .reconciling c k f) :
    ∃ s r q g, m'.phase = .reconciling c k g ∧ h.asked? = some (s, r) ∧ h'.asked? = some (s, q) ∧
      V.request s r = V.request s q ∧
      ∀ a b, V.Swaps s r a b → Exchange.Similar V Eq (f a) (g b) := by
  obtain ⟨-, -, hq⟩ := ha
  rw [hp] at hq
  generalize hm : m'.phase = p' at hq
  cases hq with
  | same hn => exact absurd rfl (hn c k f)
  | reconciling _ _ hs hs' hq hf => exact ⟨_, _, _, _, rfl, hs, hs', hq, hf⟩

theorem send_similar (ha : SimilarManagers V h h' m m') (p : Post) :
    SimilarAfter V h h' t (m.send p) (m'.send p) := by
  obtain ⟨hr, ht, hp⟩ := ha
  by_cases hs : m.phase = .stopped
  · rw [send_stopped hs, send_stopped (hp.stopped.mp hs)]
    exact ⟨hr, View.observed_append ht rfl,
      hp.mono (History.asked?_logs h t _) (History.asked?_logs h' t _)⟩
  · rw [send_running hs, send_running (mt hp.stopped.mpr hs), hr]
    exact ⟨rfl, View.observed_append ht rfl,
      hp.mono (History.asked?_accepted h t _) (History.asked?_accepted h' t _)⟩

theorem answer_idle (hn : ∀ c k f, m.phase ≠ .reconciling c k f) (a : Answer) :
    m.step? t (.answer a) = none := by
  cases hp : m.phase with
  | reconciling c k f => exact absurd hp (hn c k f)
  | _ => rw [step?, hp]

theorem answer_similar (ha : SimilarManagers V h h' m m') {a b : Answer}
    (hw : ∀ s r, h.asked? = some (s, r) → V.Swaps s r a b) :
    Option.Rel (SimilarAfter V h h' t) (m.step? t (.answer a)) (m'.step? t (.answer b)) := by
  by_cases hp : ∃ c k f, m.phase = .reconciling c k f
  · obtain ⟨c, k, f, hp⟩ := hp
    obtain ⟨s, r, q, g, hp', hs, hs', hq, hf⟩ := ha.waiting hp
    have hn := proceed_similar (m := m) (t := t) (c := c) (k := k) ha.observed m'.phase
      (hf a b (hw s r hs))
    rw [← ha.rest] at hn
    simp only [step?, hp, hp']
    exact .some hn
  · have hn : ∀ c k f, m.phase ≠ .reconciling c k f := fun c k f he => hp ⟨c, k, f, he⟩
    obtain rfl := ha.same hn
    rw [answer_idle hn, answer_idle hn]
    exact .none

theorem fire_similar (ha : SimilarManagers V h h' m m') (id : Nat) :
    Option.Rel (SimilarAfter V h h' t) (m.step? t (.fire id)) (m'.step? t (.fire id)) := by
  have hr : m'.retries = m.retries := by rw [ha.rest]
  simp only [step?, hr]
  cases m.retries.find? (·.id = id) with
  | none => exact .none
  | some r =>
    by_cases hd : r.due ≤ t
    · have hq : SimilarManagers V h h' { m with retries := m.retries.filter (·.id != id) }
          { m' with retries := m.retries.filter (·.id != id) } :=
        ⟨by rw [ha.rest], ha.observed, ha.phase⟩
      simp only [hd, if_true]
      exact .some (send_similar hq r.post)
    · simp only [hd, if_false]
      exact .none

section Steps

variable (hrec : ∀ cluster key, Exchange.Similar V Eq (Exchange.reconcile cluster key)
  (Exchange.reconcile cluster key))

include hrec

theorem begin_similar (ht : V.observed h = V.observed h') :
    SimilarAfter V h h' t (m.begin t c k) (m.begin t c k) := by
  rw [begin_eq]
  exact SimilarAfter.after (proceed_similar (View.observed_append ht rfl) _ (hrec _ _))

theorem cause_similar (ha : SimilarManagers V h h' m m') {x : Action}
    (hx : x = .start ∨ x = .receive ∨ x = .tick) :
    Option.Rel (SimilarAfter V h h' t) (m.step? t x) (m'.step? t x) := by
  by_cases hp : ∃ c k f, m.phase = .reconciling c k f
  · obtain ⟨c, k, f, hp⟩ := hp
    obtain ⟨s, r, q, g, hp', -⟩ := ha.waiting hp
    obtain rfl | rfl | rfl := hx <;> simp only [step?, hp, hp'] <;> exact .none
  · obtain rfl := ha.same fun c k f he => hp ⟨c, k, f, he⟩
    cases hs : m'.step? t x with
    | none => exact .none
    | some n =>
      obtain ⟨n, ns⟩ := n
      have hs := step_cases hs
      refine .some ?_
      obtain rfl | rfl | rfl := hx
      · obtain ⟨-, he⟩ := hs
        rw [← he]
        exact SimilarAfter.after (begin_similar hrec (View.observed_append ha.observed rfl))
      · obtain ⟨p, ps, -, -, he⟩ := hs
        rw [← he]
        exact begin_similar hrec ha.observed
      · obtain ⟨-, he⟩ := hs
        rw [← he]
        exact begin_similar hrec ha.observed

variable (hself : ∀ s r a, V.Swaps s r a a)

include hself

theorem step_similar (ha : SimilarManagers V h h' m m') (x : Action) :
    Option.Rel (SimilarAfter V h h' t) (m.step? t x) (m'.step? t x) := by
  cases x with
  | start => exact cause_similar hrec ha (.inl rfl)
  | send id e => exact .some (send_similar ha _)
  | fire id => exact fire_similar ha id
  | receive => exact cause_similar hrec ha (.inr (.inl rfl))
  | tick => exact cause_similar hrec ha (.inr (.inr rfl))
  | answer a => exact answer_similar ha fun s r _ => hself s r a

end Steps

theorem opening_similar (V : View) (cluster watched : ObjectKey) (period : Nat) :
    SimilarManagers V [] [] (opening cluster watched period) (opening cluster watched period) :=
  ⟨rfl, rfl, .same nofun⟩

theorem SimilarManagers.idleUntil (ha : SimilarManagers V h h' m m') (til : Nat) :
    m.IdleUntil til ↔ m'.IdleUntil til := by
  by_cases hp : ∃ c k f, m.phase = .reconciling c k f
  · obtain ⟨c, k, f, hp⟩ := hp
    obtain ⟨s, r, q, g, hp', -⟩ := ha.waiting hp
    have hr : m'.retries = m.retries := by rw [ha.rest]
    simp only [IdleUntil, hp, hp', hr]
  · rw [ha.same fun c k f he => hp ⟨c, k, f, he⟩]

end Manager

/-- A manager with a clock, before servers that keep a state. -/
structure ServedManager (σ : Type) where
  servers : σ
  manager : Manager
  now : Nat := 0
  history : History := []

/-- What happens next: the servers answer what was asked last, or something else happens, or some
time passes. -/
inductive Input where
  | served
  | act (x : Manager.Action)
  | wait (til : Nat)

namespace ServedManager

open Manager

variable {σ τ : Type}

def act (l : ServedManager σ) (x : Action) : Option (ServedManager σ) :=
  (l.manager.step? l.now x).map fun n =>
    { l with manager := n.1, history := l.history ++ stamp l.now n.2 }

def step (serve : σ → Server → Request → Answer × σ) (l : ServedManager σ) :
    Input → Option (ServedManager σ)
  | .served => do
    let (s, r) ← l.history.asked?
    let (a, st) := serve l.servers s r
    { l with servers := st }.act (.answer a)
  | .act x => l.act x
  | .wait til =>
    if l.now ≤ til ∧ l.manager.IdleUntil til then some { l with now := til } else none

def run (serve : σ → Server → Request → Answer × σ) (l : ServedManager σ) (bs : List Input) :
    Option (ServedManager σ) :=
  bs.foldlM (step serve) l

structure Similar (V : View) (S : σ → τ → Prop) (l : ServedManager σ) (l' : ServedManager τ) :
    Prop where
  servers : S l.servers l'.servers
  manager : SimilarManagers V l.history l'.history l.manager l'.manager
  now : l.now = l'.now

variable {V : View} {S : σ → τ → Prop} {serve : σ → Server → Request → Answer × σ}
  {serve' : τ → Server → Request → Answer × τ} {l : ServedManager σ} {l' : ServedManager τ}

theorem Similar.act_rel (hb : Similar V S l l') {x y : Action}
    (hn : Option.Rel (SimilarAfter V l.history l'.history l.now) (l.manager.step? l.now x)
      (l'.manager.step? l'.now y)) :
    Option.Rel (Similar V S) (l.act x) (l'.act y) := by
  unfold act
  generalize l.manager.step? l.now x = n at hn
  generalize l'.manager.step? l'.now y = n' at hn
  cases hn with
  | none => exact .none
  | some hn =>
    refine .some ⟨hb.servers, ?_, hb.now⟩
    rw [← hb.now]
    exact hn

theorem served_idle (hn : ∀ c k f, l.manager.phase ≠ .reconciling c k f) :
    l.step serve .served = none := by
  cases hq : l.history.asked? with
  | none => rw [step, hq]; rfl
  | some q => simp [step, hq, act, answer_idle hn]

theorem step_served {s : Server} {r : Request} (hq : l.history.asked? = some (s, r)) :
    l.step serve .served
      = { l with servers := (serve l.servers s r).2 }.act (.answer (serve l.servers s r).1) := by
  rw [step, hq]
  rfl

theorem Similar.served (ht : V.ServeAlike S serve serve') (hb : Similar V S l l') :
    Option.Rel (Similar V S) (l.step serve .served) (l'.step serve' .served) := by
  by_cases hp : ∃ c k f, l.manager.phase = .reconciling c k f
  · obtain ⟨c, k, f, hp⟩ := hp
    obtain ⟨s, r, q, g, -, hs, hs', hq, -⟩ := hb.manager.waiting hp
    obtain ⟨hw, hn⟩ := ht _ _ s r q hb.servers hq
    have hb : Similar V S { l with servers := (serve l.servers s r).2 }
        { l' with servers := (serve' l'.servers s q).2 } := ⟨hn, hb.manager, hb.now⟩
    rw [step_served hs, step_served hs']
    apply hb.act_rel
    rw [← hb.now]
    refine answer_similar hb.manager fun s' r' ha => ?_
    cases hs.symm.trans ha
    exact hw
  · have hn : ∀ c k f, l.manager.phase ≠ .reconciling c k f := fun c k f he => hp ⟨c, k, f, he⟩
    have hm := hb.manager.same hn
    rw [served_idle hn, served_idle (by rwa [hm])]
    exact .none

variable (hrec : ∀ cluster key, Exchange.Similar V Eq (Exchange.reconcile cluster key)
    (Exchange.reconcile cluster key)) (hself : ∀ s r a, V.Swaps s r a a)
  (ht : V.ServeAlike S serve serve')

include hrec hself ht

theorem Similar.step (hb : Similar V S l l') (b : Input) :
    Option.Rel (Similar V S) (l.step serve b) (l'.step serve' b) := by
  cases b with
  | served => exact hb.served ht
  | act x =>
    apply hb.act_rel
    rw [← hb.now]
    exact step_similar hrec hself hb.manager x
  | wait til =>
    simp only [ServedManager.step, ← hb.now, ← hb.manager.idleUntil til]
    by_cases hc : l.now ≤ til ∧ l.manager.IdleUntil til
    · rw [if_pos hc, if_pos hc]
      exact .some ⟨hb.servers, hb.manager, rfl⟩
    · rw [if_neg hc, if_neg hc]
      exact .none

theorem Similar.run (hb : Similar V S l l') (bs : List Input) :
    Option.Rel (Similar V S) (l.run serve bs) (l'.run serve' bs) := by
  induction bs generalizing l l' with
  | nil => exact .some hb
  | cons b bs ih =>
    have hn := hb.step hrec hself ht b
    simp only [ServedManager.run, List.foldlM_cons]
    generalize l.step serve b = n at hn
    generalize l'.step serve' b = n' at hn
    cases hn with
    | none => exact .none
    | some hn => exact ih hn

end ServedManager

end TokenCourier
