import Mathlib
import TokenCourier.Sync.Manager

namespace TokenCourier

abbrev History := List (Nat × Note)

/-- A reconciliation as the history shows it. `came` are the events that entered the inbox after it
began and before the next one did, `retry` the task that it left behind. -/
structure Reconciliation where
  cause : Cause
  key : ObjectKey
  start : Nat
  verdict : Option (Nat × Except SyncError Outcome) := none
  retry : Option Retry := none
  came : List Post := []

def Reconciliation.Schedules (a : Reconciliation) (p : Post) : Prop :=
  ∃ r t e, a.retry = some r ∧ r.post = p ∧ a.verdict = some (t, .error e)

namespace History

def begun (h : History) : List (Nat × Cause × ObjectKey) :=
  h.filterMap fun
    | (t, .began c k) => some (t, c, k)
    | _ => none

def enter : List Reconciliation → Nat × Note → List Reconciliation
  | as, (t, .began c k) => { cause := c, key := k, start := t } :: as
  | a :: as, (t, .ended _ r) => { a with verdict := some (t, r) } :: as
  | a :: as, (_, .armed r) => { a with retry := some r } :: as
  | a :: as, (_, .accepted p) => { a with came := a.came ++ [p] } :: as
  | as, _ => as

def ledger (h : History) : List Reconciliation := h.foldl enter []

variable (h g : History) (t : Nat)

theorem begun_append : (h ++ g).begun = h.begun ++ g.begun := List.filterMap_append ..

theorem ledger_append : (h ++ g).ledger = g.foldl enter h.ledger := List.foldl_append ..

theorem ledger_shown (e : Entry) : ledger (h ++ [(t, .shown e)]) = h.ledger := by
  rw [ledger_append]
  cases h.ledger <;> rfl

theorem ledger_began (c : Cause) (k : ObjectKey) :
    ledger (h ++ [(t, .began c k)]) = { cause := c, key := k, start := t } :: h.ledger := by
  rw [ledger_append]
  cases h.ledger <;> rfl

variable {h} {a : Reconciliation} {as : List Reconciliation}

theorem ledger_accepted (ha : h.ledger = a :: as) (p : Post) :
    ledger (h ++ [(t, .accepted p)]) = { a with came := a.came ++ [p] } :: as := by
  rw [ledger_append, ha]
  rfl

theorem ledger_ended (ha : h.ledger = a :: as) (k : ObjectKey) (r : Except SyncError Outcome) :
    ledger (h ++ [(t, .ended k r)]) = { a with verdict := some (t, r) } :: as := by
  rw [ledger_append, ha]
  rfl

theorem ledger_failed (ha : h.ledger = a :: as) (k : ObjectKey) (e : SyncError) (l : LogLine)
    (r : Retry) :
    ledger (h ++ [(t, .ended k (.error e)), (t, .shown (.log l)), (t, .armed r)])
      = { a with verdict := some (t, .error e), retry := some r } :: as := by
  rw [ledger_append, ha]
  rfl

variable (h) in
theorem ledger_logs (ls : List LogLine) :
    ledger (h ++ (Manager.logs ls).map (t, ·)) = h.ledger := by
  induction ls generalizing h with
  | nil => simp [Manager.logs]
  | cons l ls ih =>
    have hl := ih (h ++ [(t, .shown (.log l))])
    rw [ledger_shown, List.append_assoc] at hl
    exact hl

theorem ledger_came (ha : h.ledger = a :: as) (ps : List Post) :
    ledger (h ++ (ps.map Note.accepted).map (t, ·)) = { a with came := a.came ++ ps } :: as := by
  induction ps generalizing h a with
  | nil => simpa using ha
  | cons p ps ih =>
    have hp := ih (ledger_accepted t ha p)
    rw [List.append_assoc, List.append_assoc] at hp
    exact hp

theorem ledger_early (hn : h.ledger = []) (ps : List Post) :
    ledger (h ++ (ps.map Note.accepted).map (t, ·)) = [] := by
  rw [ledger_append, hn]
  induction ps with
  | nil => rfl
  | cons p ps ih => exact ih

end History

namespace Manager

/-- The clock may go on to `til`: nothing that happens by itself is due before. -/
def IdleUntil (m : Manager) (til : Nat) : Prop :=
  (∀ r ∈ m.retries, til ≤ r.due) ∧
  match m.phase with
  | .fresh => False
  | .waiting => m.inbox = [] ∧ til ≤ m.tick
  | .reconciling .. | .stopped => True

def waits (m : Manager) : Bool :=
  match m.phase with
  | .waiting => true
  | _ => false

theorem phase_of_waits {m : Manager} (hw : m.waits = true) : m.phase = .waiting := by
  unfold waits at hw
  split at hw
  · assumption
  · cases hw

def stamp (t : Nat) (ns : List Note) : History := ns.map (t, ·)

/-- Whatever is sent and answered, and in whatever order things happen that happen at one time. -/
inductive Run (s : Nat × Manager) : History → Nat × Manager → Prop where
  | refl : Run s [] s
  | act {h t m x m' ns} : Run s h (t, m) → m.step? t x = some (m', ns) →
      Run s (h ++ stamp t ns) (t, m')
  | wait {h t m til} : Run s h (t, m) → t ≤ til → m.IdleUntil til → Run s h (til, m)

def opening (cluster watched : ObjectKey) (period : Nat) : Manager := { cluster, watched, period }

/-- The elementary changes of which every step is composed. -/
inductive Move (t : Nat) : Manager × History → Manager × History → Prop where
  | sends {m h} (id : Nat) (e : SyncEvent) : m.phase ≠ .stopped →
      Move t (m, h) ({ m with blocked := m.blocked ++ [⟨.outside id, e⟩] }, h)
  | fires {m h r} : r ∈ m.retries → r.due ≤ t → m.phase ≠ .stopped →
      Move t (m, h) ({ m with
        retries := m.retries.filter (·.id != r.id)
        blocked := m.blocked ++ [r.post] }, h)
  | expires {m h} (id : Nat) : m.phase = .stopped →
      Move t (m, h) ({ m with retries := m.retries.filter (·.id != id) }, h)
  | enters {m h p ps} : m.blocked = p :: ps → m.inbox.length < capacity →
      Move t (m, h) ({ m with inbox := m.inbox ++ [p], blocked := ps },
        h ++ [(t, .accepted p)])
  | shows {m h} (e : Entry) : Move t (m, h) (m, h ++ [(t, .shown e)])
  | begins {m h} (cause : Cause) (inbox : List Post) : m.phase ≠ .stopped →
      (match cause with
        | .post p => m.inbox = p :: inbox
        | _ => m.inbox = inbox) →
      Move t (m, h) ({ m.abandon with inbox },
        h ++ [(t, .began cause (match cause with
          | .post p => p.event.key
          | _ => m.watched))])
  | succeeds {m h a as} (o : Outcome) : h.ledger = a :: as → a.verdict = none →
      Move t (m, h) (m, h ++ [(t, .ended a.key (.ok o))])
  | fails {m h a as} (e : SyncError) : h.ledger = a :: as → a.verdict = none →
      Move t (m, h) ({ m with
        retries := m.retries ++ [⟨m.spawned, a.key, t + retryDelay⟩]
        pending := some m.spawned
        spawned := m.spawned + 1 },
        h ++ [(t, .ended a.key (.error e)), (t, .shown (.log e.report)),
          (t, .armed ⟨m.spawned, a.key, t + retryDelay⟩)])
  | setsPhase {m h} (phase : Phase) (tick : Nat) : m.phase ≠ .stopped → phase ≠ .stopped →
      Move t (m, h) ({ m with phase, tick }, h)
  | stops {m h} : m.phase ≠ .stopped →
      Move t (m, h) ({ m with phase := .stopped, inbox := [], blocked := [] }, h)

abbrev Moves (t : Nat) := Relation.ReflTransGen (Move t)

variable {t : Nat}

theorem stamp_append (ns ms : List Note) : stamp t (ns ++ ms) = stamp t ns ++ stamp t ms :=
  List.map_append

theorem logs_moves (m : Manager) (h : History) (ls : List LogLine) :
    Moves t (m, h) (m, h ++ stamp t (logs ls)) := by
  induction ls generalizing h with
  | nil => simpa [stamp, logs] using Relation.ReflTransGen.refl
  | cons l ls ih =>
    have hs : Move t (m, h) (m, h ++ [(t, .shown (.log l))]) := .shows _
    have ht := ih (h ++ [(t, .shown (.log l))])
    apply Relation.ReflTransGen.head hs
    simpa [stamp, logs] using ht

theorem enters_moves (m : Manager) (h : History) (n : Nat) (hn : n ≤ m.blocked.length)
    (hc : m.inbox.length + n ≤ capacity) :
    Moves t (m, h) ({ m with
      inbox := m.inbox ++ m.blocked.take n
      blocked := m.blocked.drop n }, h ++ stamp t ((m.blocked.take n).map .accepted)) := by
  induction n with
  | zero => simpa [stamp] using Relation.ReflTransGen.refl
  | succ n ih =>
    have hi := ih (by omega) (by omega)
    apply hi.tail
    have hd : m.blocked.drop n = m.blocked[n] :: m.blocked.drop (n + 1) :=
      List.drop_eq_getElem_cons (by omega)
    have ht : m.blocked.take (n + 1) = m.blocked.take n ++ [m.blocked[n]] := by
      rw [List.take_succ_eq_append_getElem (by omega)]
    rw [ht, List.map_append, stamp_append, ← List.append_assoc, ← List.append_assoc]
    apply Move.enters hd
    simp only [List.length_append, List.length_take]
    omega

theorem letIn_moves (m : Manager) (h : History) (hc : m.inbox.length ≤ capacity) :
    Moves t (m, h) (m.letIn.1, h ++ stamp t m.letIn.2) := by
  have ht : m.blocked.take (capacity - m.inbox.length)
      = m.blocked.take (min (capacity - m.inbox.length) m.blocked.length) := by
    rw [List.take_eq_take_min]
  have hd : m.blocked.drop (capacity - m.inbox.length)
      = m.blocked.drop (min (capacity - m.inbox.length) m.blocked.length) := by
    rw [List.drop_eq_drop_min]
  unfold letIn
  simp only [ht, hd]
  exact enters_moves m h _ (by omega) (by omega)

/-- The reconciliation under way is the latest one of the run. -/
def InProgress (h : History) (cause : Cause) (key : ObjectKey) (as : List Reconciliation) : Prop :=
  ∃ a, h.ledger = a :: as ∧ a.cause = cause ∧ a.key = key ∧ a.verdict = none

def Concluded (h : History) (cause : Cause) (as : List Reconciliation)
    (r : Except SyncError Outcome) : Prop :=
  ∃ a t, h.ledger = a :: as ∧ a.cause = cause ∧ a.verdict = some (t, r)

variable {m : Manager} {h g : History} {cause : Cause} {key : ObjectKey} {as : List Reconciliation}
  {r : Except SyncError Outcome}

theorem InProgress.logs (hu : InProgress h cause key as) (ls : List LogLine) :
    InProgress (h ++ stamp t (logs ls)) cause key as := by
  obtain ⟨a, ha, hr⟩ := hu
  exact ⟨a, (History.ledger_logs h t ls).trans ha, hr⟩

theorem Concluded.logs (ho : Concluded h cause as r) (ls : List LogLine) :
    Concluded (h ++ stamp t (Manager.logs ls)) cause as r := by
  obtain ⟨a, u, ha, hr⟩ := ho
  exact ⟨a, u, (History.ledger_logs h t ls).trans ha, hr⟩

theorem conclude_moves (hu : InProgress h cause key as) (r : Except SyncError Outcome) :
    Moves t (m, h) ((m.conclude t key r).1, h ++ stamp t (m.conclude t key r).2) ∧
      Concluded (h ++ stamp t (m.conclude t key r).2) cause as r := by
  obtain ⟨a, ha, hc, rfl, hv⟩ := hu
  cases r with
  | ok o =>
    have hm : Move t (m, h) (m, h ++ [(t, .ended a.key (.ok o))]) := .succeeds o ha hv
    have hl := logs_moves (t := t) m (h ++ [(t, .ended a.key (.ok o))]) [reconciled a.key o]
    rw [List.append_assoc] at hl
    refine ⟨Relation.ReflTransGen.head hm hl, ?_⟩
    have ho : Concluded (h ++ [(t, .ended a.key (.ok o))]) cause as (.ok o) :=
      ⟨_, _, History.ledger_ended t ha _ _, hc, rfl⟩
    have hs := ho.logs (t := t) [reconciled a.key o]
    rw [List.append_assoc] at hs
    exact hs
  | error e =>
    exact ⟨Relation.ReflTransGen.single (.fails e ha hv), _, _,
      History.ledger_failed t ha _ _ _ _, hc, rfl⟩

theorem conclude_phase (r : Except SyncError Outcome) :
    (m.conclude t key r).1.phase = m.phase := by
  cases r <;> rfl

theorem listen_moves (ho : Concluded h cause as r) (hp : m.phase ≠ .stopped) :
    Moves t (m, h) ((m.listen t).1, h ++ stamp t (m.listen t).2) ∧
      Concluded (h ++ stamp t (m.listen t).2) cause as r := by
  unfold listen
  split
  · rw [stamp, List.map_nil, List.append_nil]
    exact ⟨Relation.ReflTransGen.single (.setsPhase .waiting _ hp (by simp)), ho⟩
  · exact ⟨Relation.ReflTransGen.head (.stops hp) (logs_moves _ _ _), ho.logs _⟩

theorem finish_moves (hu : InProgress h cause key as) (hp : m.phase ≠ .stopped)
    (r : Except SyncError Outcome) :
    Moves t (m, h) ((m.finish t cause key r).1, h ++ stamp t (m.finish t cause key r).2) ∧
      Concluded (h ++ stamp t (m.finish t cause key r).2) cause as r := by
  obtain ⟨hm, ho⟩ := conclude_moves (m := m) (t := t) hu r
  have hq : (m.conclude t key r).1.phase = m.phase := conclude_phase r
  rw [← hq] at hp
  unfold finish
  generalize m.conclude t key r = c at hm ho hp
  obtain ⟨n, ns⟩ := c
  cases cause with
  | post p | tick => exact ⟨hm.tail (.setsPhase .waiting n.tick hp (by simp)), ho⟩
  | start =>
    have hl := logs_moves (t := t) n (h ++ stamp t ns) [initialDone]
    obtain ⟨hs, hd⟩ := listen_moves (t := t) (ho.logs (t := t) [initialDone]) hp
    simp only [stamp_append, ← List.append_assoc]
    exact ⟨(hm.trans hl).trans hs, hd⟩

theorem proceed_moves (hu : InProgress h cause key as) (hp : m.phase ≠ .stopped)
    (x : Exchange (Except SyncError Outcome)) :
    Moves t (m, h)
      ((m.proceed t cause key x).1, h ++ stamp t (m.proceed t cause key x).2) := by
  unfold proceed
  split
  · next lines s r next he =>
    have hl := logs_moves (t := t) m h lines
    rw [stamp_append, ← List.append_assoc]
    exact (hl.tail (.setsPhase (.reconciling cause key next) m.tick hp (by simp))).tail (.shows _)
  · next lines r he =>
    have hl := logs_moves (t := t) m h lines
    have hf := finish_moves (t := t) (hu.logs (t := t) lines) hp r
    rw [stamp_append, ← List.append_assoc]
    exact hl.trans hf.1

theorem abandon_phase (m : Manager) : m.abandon.phase = m.phase := by
  unfold abandon
  split <;> rfl

theorem abandon_inbox (m : Manager) : m.abandon.inbox = m.inbox := by
  unfold abandon
  split <;> rfl

theorem abandon_taken (m : Manager) (ps : List Post) :
    ({ m with inbox := ps } : Manager).abandon = { m.abandon with inbox := ps } := by
  cases hp : m.pending <;> simp [abandon, hp]

theorem letIn_phase (m : Manager) : m.letIn.1.phase = m.phase := rfl

theorem letIn_full (m : Manager) (hc : m.inbox.length ≤ capacity) (hb : m.letIn.1.blocked ≠ []) :
    m.letIn.1.inbox.length = capacity := by
  have hl : capacity - m.inbox.length < m.blocked.length := by
    by_contra hge
    exact hb (List.drop_eq_nil_of_le (by omega))
  simp only [letIn, List.length_append, List.length_take]
  omega

/-- Only a manager that stops loses what waits for it. -/
def SameQueue (m n : Manager) : Prop :=
  (n.inbox = m.inbox ∧ n.blocked = m.blocked) ∨
    (n.phase = .stopped ∧ n.inbox = [] ∧ n.blocked = [])

theorem finish_queue (r : Except SyncError Outcome) :
    SameQueue m (m.finish t cause key r).1 := by
  unfold finish
  cases cause with
  | post p | tick => cases r <;> exact .inl ⟨rfl, rfl⟩
  | start =>
    simp only [listen]
    split
    · cases r <;> exact .inl ⟨rfl, rfl⟩
    · exact .inr ⟨rfl, rfl, rfl⟩

theorem finish_phase (r : Except SyncError Outcome) :
    (m.finish t cause key r).1.phase = .waiting ∨
      cause = .start ∧ (m.finish t cause key r).1.phase = .stopped := by
  unfold finish
  cases cause with
  | post p | tick => exact .inl rfl
  | start =>
    dsimp only [listen]
    split
    · exact .inl rfl
    · exact .inr ⟨rfl, rfl⟩

theorem InProgress.came (hu : InProgress h cause key as) (ps : List Post) :
    InProgress (h ++ stamp t (ps.map .accepted)) cause key as := by
  obtain ⟨a, ha, hr⟩ := hu
  exact ⟨_, History.ledger_came t ha ps, hr⟩

theorem begin_eq (m : Manager) (t : Nat) (cause : Cause) (key : ObjectKey) :
    m.begin t cause key =
      ((m.abandon.letIn.1.proceed t cause key
          (Exchange.reconcile m.abandon.letIn.1.cluster key)).1,
        .began cause key :: m.abandon.letIn.2 ++ (m.abandon.letIn.1.proceed t cause key
          (Exchange.reconcile m.abandon.letIn.1.cluster key)).2) :=
  rfl

theorem begin_moves {n : Manager} (hp : m.phase ≠ .stopped) (hc : m.inbox.length ≤ capacity)
    (hb : Move t (n, h) (m.abandon, h ++ [(t, .began cause key)])) :
    Moves t (n, h) ((m.begin t cause key).1, h ++ stamp t (m.begin t cause key).2) := by
  have hu : InProgress (h ++ [(t, .began cause key)]) cause key h.ledger :=
    ⟨_, History.ledger_began h t cause key, rfl, rfl, rfl⟩
  have hl := letIn_moves (t := t) m.abandon (h ++ [(t, .began cause key)])
    (by rwa [abandon_inbox])
  have hx := proceed_moves (t := t) (m := m.abandon.letIn.1)
    (hu.came (t := t) (m.abandon.blocked.take (capacity - m.abandon.inbox.length)))
    (by rwa [letIn_phase, abandon_phase]) (Exchange.reconcile m.abandon.letIn.1.cluster key)
  have hm := Relation.ReflTransGen.head hb (hl.trans hx)
  rw [begin_eq]
  simpa [stamp, letIn] using hm

/-- How the phase of a manager fits the run that led to it. -/
structure Coherent (m : Manager) (h : History) : Prop where
  fresh : m.phase = .fresh → h.ledger = []
  running : ∀ c k n, m.phase = .reconciling c k n → ∃ as, InProgress h c k as
  waiting : m.phase = .waiting → ∃ c as r, Concluded h c as r
  stopped : m.phase = .stopped → ∃ r, Concluded h .start [] r
  first : ∀ a as, h.ledger = a :: as → a.cause = .start → as = []
  room : m.inbox.length ≤ capacity
  full : m.blocked ≠ [] → m.inbox.length = capacity

theorem opening_coherent (cluster watched : ObjectKey) (period : Nat) :
    Coherent (opening cluster watched period) [] where
  fresh _ := rfl
  running c k n h := by cases h
  waiting h := by cases h
  stopped h := by cases h
  first a as h := by cases h
  room := Nat.zero_le _
  full h := absurd rfl h

theorem SameQueue.room {n : Manager} (hq : SameQueue m n) (hr : m.inbox.length ≤ capacity) :
    n.inbox.length ≤ capacity := by
  rcases hq with ⟨hi, -⟩ | ⟨-, hi, -⟩ <;> rw [hi]
  · exact hr
  · exact Nat.zero_le _

theorem SameQueue.full {n : Manager} (hq : SameQueue m n)
    (hb : m.blocked ≠ [] → m.inbox.length = capacity) :
    n.blocked ≠ [] → n.inbox.length = capacity := by
  rcases hq with ⟨hi, hw⟩ | ⟨-, -, hw⟩ <;> rw [hw]
  · rw [hi]
    exact hb
  · exact fun h => absurd rfl h

theorem finish_coherent (hu : InProgress h cause key as) (hf : cause = .start → as = [])
    (hp : m.phase ≠ .stopped) (hr : m.inbox.length ≤ capacity)
    (hb : m.blocked ≠ [] → m.inbox.length = capacity) (r : Except SyncError Outcome) :
    Coherent (m.finish t cause key r).1 (h ++ stamp t (m.finish t cause key r).2) := by
  have ho := (finish_moves (m := m) (t := t) hu hp r).2
  have hq : SameQueue m (m.finish t cause key r).1 := finish_queue r
  have hs : (m.finish t cause key r).1.phase = .waiting ∨
      cause = .start ∧ (m.finish t cause key r).1.phase = .stopped := finish_phase r
  refine ⟨fun hn => ?_, fun c k n hn => ?_, fun _ => ⟨cause, as, r, ho⟩, fun hn => ?_,
    fun b bs hl hc => ?_, hq.room hr, hq.full hb⟩
  · rcases hs with hs | ⟨-, hs⟩ <;> rw [hs] at hn <;> cases hn
  · rcases hs with hs | ⟨-, hs⟩ <;> rw [hs] at hn <;> cases hn
  · obtain hs | ⟨rfl, -⟩ := hs
    · rw [hs] at hn
      cases hn
    · rw [hf rfl] at ho
      exact ⟨r, ho⟩
  · obtain ⟨a, u, ha, hac, -⟩ := ho
    rw [ha] at hl
    cases hl
    exact hf (hac.symm.trans hc)

theorem proceed_coherent (hu : InProgress h cause key as) (hf : cause = .start → as = [])
    (hp : m.phase ≠ .stopped) (hr : m.inbox.length ≤ capacity)
    (hb : m.blocked ≠ [] → m.inbox.length = capacity) (x : Exchange (Except SyncError Outcome)) :
    Coherent (m.proceed t cause key x).1 (h ++ stamp t (m.proceed t cause key x).2) := by
  unfold proceed
  split
  · next lines s r k he =>
    obtain ⟨a, ha, hac, hak, hav⟩ := hu.logs (t := t) lines
    have hs : (h ++ stamp t (logs lines ++ [.shown (.sent s r)])).ledger = a :: as := by
      rw [stamp_append, ← List.append_assoc]
      exact (History.ledger_shown _ t _).trans ha
    refine ⟨nofun, fun c k n hn => ?_, nofun, nofun, fun b bs hl hc => ?_, hr, hb⟩
    · cases hn
      exact ⟨as, a, hs, hac, hak, hav⟩
    · rw [hs] at hl
      cases hl
      exact hf (hac.symm.trans hc)
  · next lines r he =>
    have hc := finish_coherent (t := t) (hu.logs (t := t) lines) hf hp hr hb r
    rw [List.append_assoc, ← stamp_append] at hc
    exact hc

theorem begin_coherent (hf : cause = .start → h.ledger = []) (hp : m.phase ≠ .stopped)
    (hr : m.inbox.length ≤ capacity) :
    Coherent (m.begin t cause key).1 (h ++ stamp t (m.begin t cause key).2) := by
  have hu : InProgress (h ++ [(t, .began cause key)]) cause key h.ledger :=
    ⟨_, History.ledger_began h t cause key, rfl, rfl, rfl⟩
  rw [← abandon_inbox] at hr
  have hc := proceed_coherent (t := t) (m := m.abandon.letIn.1)
    (hu.came (t := t) (m.abandon.blocked.take (capacity - m.abandon.inbox.length))) hf
    (by rwa [letIn_phase, abandon_phase]) (by
      simp only [letIn, List.length_append, List.length_take]
      omega) (letIn_full _ hr) (Exchange.reconcile m.abandon.letIn.1.cluster key)
  rw [begin_eq]
  simpa [stamp, letIn] using hc

theorem Coherent.logs (hc : Coherent m h) (ls : List LogLine) :
    Coherent m (h ++ stamp t (Manager.logs ls)) := by
  have hl : (h ++ stamp t (Manager.logs ls)).ledger = h.ledger := History.ledger_logs h t ls
  obtain ⟨hf, hr, hw, hs, ha, hi, hb⟩ := hc
  refine ⟨fun hp => hl.trans (hf hp), fun c k n hp => ?_, fun hp => ?_, fun hp => ?_,
    fun a as => hl ▸ ha a as, hi, hb⟩
  · obtain ⟨as, hu⟩ := hr c k n hp
    exact ⟨as, hu.logs ls⟩
  · obtain ⟨c, as, r, ho⟩ := hw hp
    exact ⟨c, as, r, ho.logs ls⟩
  · obtain ⟨r, ho⟩ := hs hp
    exact ⟨r, ho.logs ls⟩

theorem Coherent.retries (hc : Coherent m h) (rs : List Retry) :
    Coherent { m with retries := rs } h := by
  obtain ⟨hf, hr, hw, hs, ha, hi, hb⟩ := hc
  exact ⟨hf, hr, hw, hs, ha, hi, hb⟩

theorem Concluded.came (ho : Concluded h cause as r) (ps : List Post) :
    Concluded (h ++ stamp t (ps.map .accepted)) cause as r := by
  obtain ⟨a, u, ha, hr⟩ := ho
  exact ⟨_, u, History.ledger_came t ha ps, hr⟩

theorem send_stopped (hp : m.phase = .stopped) (p : Post) :
    m.send p = (m, Manager.logs [closed]) := by
  unfold send
  split
  · rfl
  · next hn => exact absurd hp hn

theorem send_running (hp : m.phase ≠ .stopped) (p : Post) :
    m.send p = ({ m with blocked := m.blocked ++ [p] } : Manager).letIn := by
  unfold send
  split
  · next hs => exact absurd hs hp
  · rfl

theorem letIn_coherent (hc : Coherent m h) (p : Post) (hp : m.phase ≠ .stopped) :
    Moves t ({ m with blocked := m.blocked ++ [p] }, h)
        ((m.send p).1, h ++ stamp t (m.send p).2) ∧
      Coherent (m.send p).1 (h ++ stamp t (m.send p).2) := by
  rw [send_running hp]
  obtain ⟨hf, hr, hw, hs, ha, hi, hb⟩ := hc
  refine ⟨letIn_moves _ _ hi, fun hn => History.ledger_early t (hf hn) _, fun c k n hn => ?_,
    fun hn => ?_, fun hn => absurd hn hp, fun a as hl hac => ?_, ?_, letIn_full _ hi⟩
  · obtain ⟨as, hu⟩ := hr c k n hn
    exact ⟨as, hu.came _⟩
  · obtain ⟨c, as, r, ho⟩ := hw hn
    exact ⟨c, as, r, ho.came _⟩
  · cases hh : h.ledger with
    | nil =>
      have hl' := History.ledger_early t hh
        ((m.blocked ++ [p]).take (capacity - m.inbox.length))
      exact absurd (hl.symm.trans hl') (by simp)
    | cons b bs =>
      have hl' := History.ledger_came t hh
        ((m.blocked ++ [p]).take (capacity - m.inbox.length))
      cases hl.symm.trans hl'
      exact ha b as hh hac
  · simp only [letIn, List.length_append, List.length_take]
    omega

/-- For each action, when it can be taken and what it leads to. -/
theorem step_cases {x : Action} {n : Manager} {ns : List Note}
    (hs : m.step? t x = some (n, ns)) :
    match x with
    | .start => m.phase = .fresh ∧ m.start t = (n, ns)
    | .send id e => m.send ⟨.outside id, e⟩ = (n, ns)
    | .fire id => ∃ r ∈ m.retries, r.id = id ∧ r.due ≤ t ∧
      ({ m with retries := m.retries.filter (·.id != id) } : Manager).send r.post = (n, ns)
    | .receive => ∃ p ps, m.phase = .waiting ∧ m.inbox = p :: ps ∧
      ({ m with inbox := ps } : Manager).begin t (.post p) p.event.key = (n, ns)
    | .tick => m.phase = .waiting ∧
      ({ m with tick := following m.period m.tick t } : Manager).begin t .tick m.watched = (n, ns)
    | .answer a => ∃ c k next, m.phase = .reconciling c k next ∧
      m.proceed t c k (next a) = (n, ns) := by
  cases x with
  | start =>
    simp only [step?] at hs
    split at hs
    · next hp => exact ⟨hp, Option.some.inj hs⟩
    · cases hs
  | send id e => exact Option.some.inj hs
  | fire id =>
    simp only [step?] at hs
    split at hs
    · next r hr =>
      split at hs
      · next hd =>
        have hi : r.id = id := by simpa using List.find?_some hr
        exact ⟨r, List.mem_of_find?_eq_some hr, hi, hd, Option.some.inj hs⟩
      · cases hs
    · cases hs
  | receive =>
    simp only [step?] at hs
    split at hs
    · next p ps hp hi => exact ⟨p, ps, hp, hi, Option.some.inj hs⟩
    · cases hs
  | tick =>
    simp only [step?] at hs
    split at hs
    · next hp =>
      split at hs
      · exact ⟨hp, Option.some.inj hs⟩
      · cases hs
    · cases hs
  | answer a =>
    simp only [step?] at hs
    split at hs
    · next c k next hp => exact ⟨c, k, next, hp, Option.some.inj hs⟩
    · cases hs

theorem step_moves {x : Action} {n : Manager} {ns : List Note} (hc : Coherent m h)
    (hs : m.step? t x = some (n, ns)) :
    Moves t (m, h) (n, h ++ stamp t ns) ∧ Coherent n (h ++ stamp t ns) := by
  have hs := step_cases hs
  cases x with
  | start =>
    obtain ⟨hp, he⟩ := hs
    cases he
    have hp' : m.phase ≠ .stopped := by simp [hp]
    have hd := hc.logs (t := t) [started m.cluster]
    have hl := logs_moves (t := t) m h [started m.cluster]
    rw [stamp_append, ← List.append_assoc]
    refine ⟨hl.trans (begin_moves hp' hc.room ?_),
      begin_coherent (fun _ => hd.fresh hp) hp' hc.room⟩
    have hb : Move t (m, h ++ stamp t (logs [started m.cluster])) _ :=
      .begins .start m.inbox hp' rfl
    rwa [← abandon_taken] at hb
  | send id e =>
    by_cases hp : m.phase = .stopped
    · cases hs.symm.trans (send_stopped hp ⟨.outside id, e⟩)
      exact ⟨logs_moves m h _, hc.logs _⟩
    · obtain ⟨hm, hn⟩ := letIn_coherent (t := t) hc ⟨.outside id, e⟩ hp
      rw [hs] at hm hn
      exact ⟨Relation.ReflTransGen.head (.sends id e hp) hm, hn⟩
  | fire id =>
    obtain ⟨r, hm, rfl, hd, he⟩ := hs
    by_cases hp : m.phase = .stopped
    · have hs := send_stopped (m := { m with retries := m.retries.filter (·.id != r.id) })
        hp r.post
      cases he.symm.trans hs
      exact ⟨Relation.ReflTransGen.head (.expires r.id hp) (logs_moves _ h _),
        (hc.retries _).logs _⟩
    · obtain ⟨hn, hc⟩ := letIn_coherent (t := t)
        (hc.retries (m.retries.filter (·.id != r.id))) r.post hp
      rw [he] at hn hc
      exact ⟨Relation.ReflTransGen.head (.fires hm hd hp) hn, hc⟩
  | receive =>
    obtain ⟨p, ps, hp, hi, he⟩ := hs
    cases he
    have hp' : m.phase ≠ .stopped := by simp [hp]
    have hr : ps.length ≤ capacity := by
      have := hc.room
      rw [hi, List.length_cons] at this
      omega
    have hb : Move t (m, h) _ := .begins (.post p) ps hp' hi
    rw [← abandon_taken] at hb
    exact ⟨begin_moves hp' hr hb, begin_coherent nofun hp' hr⟩
  | tick =>
    obtain ⟨hp, he⟩ := hs
    cases he
    have hp' : m.phase ≠ .stopped := by simp [hp]
    have ht : Move t (m, h) ({ m with tick := following m.period m.tick t }, h) :=
      .setsPhase m.phase _ hp' hp'
    have hb : Move t ({ m with tick := following m.period m.tick t }, h) _ :=
      .begins .tick m.inbox hp' rfl
    rw [← abandon_taken] at hb
    exact ⟨Relation.ReflTransGen.head ht (begin_moves hp' hc.room hb),
      begin_coherent nofun hp' hc.room⟩
  | answer a =>
    obtain ⟨c, k, next, hp, he⟩ := hs
    obtain ⟨as, hu⟩ := hc.running c k next hp
    have hp' : m.phase ≠ .stopped := by simp [hp]
    have hf : c = .start → as = [] := by
      obtain ⟨b, hb, hbc, -⟩ := hu
      exact fun hs => hc.first b as hb (hbc.trans hs)
    have hm := proceed_moves (t := t) hu hp' (next a)
    have hd := proceed_coherent (t := t) hu hf hp' hc.room hc.full (next a)
    rw [he] at hm hd
    exact ⟨hm, hd⟩

variable {cluster watched : ObjectKey} {period : Nat}

theorem run_coherent (hr : Run (0, opening cluster watched period) h (t, m)) : Coherent m h := by
  generalize hs : (0, opening cluster watched period) = s at hr
  generalize he : (t, m) = s' at hr
  induction hr generalizing t m with
  | refl =>
    cases hs
    cases he
    exact opening_coherent ..
  | act _ hx ih =>
    cases he
    exact (step_moves (ih rfl) hx).2
  | wait _ _ _ ih =>
    cases he
    exact ih rfl

/-- What holds at the opening and is kept by moves and by the passing of time holds in all runs. -/
theorem run_keeps {I : Nat → Manager × History → Prop}
    (ho : I 0 (opening cluster watched period, []))
    (hm : ∀ t s s', I t s → Move t s s' → I t s')
    (hw : ∀ t u s, I t s → t ≤ u → s.1.IdleUntil u → I u s)
    (hr : Run (0, opening cluster watched period) h (t, m)) : I t (m, h) := by
  generalize hs : (0, opening cluster watched period) = s at hr
  generalize he : (t, m) = s' at hr
  induction hr generalizing t m with
  | refl =>
    cases hs
    cases he
    exact ho
  | act hr hx ih =>
    cases he
    have hi := ih rfl
    cases hs
    obtain ⟨hms, -⟩ := step_moves (run_coherent hr) hx
    generalize (_, _ ++ stamp _ _) = s' at hms
    induction hms with
    | refl => exact hi
    | tail _ hl ih => exact hm _ _ _ ih hl
  | wait _ hl hq ih =>
    cases he
    exact hw _ _ _ (ih rfl) hl hq

instance (m : Manager) (til : Nat) : Decidable (m.IdleUntil til) :=
  match hp : m.phase with
  | .fresh => isFalse fun hr => by simp [IdleUntil, hp] at hr
  | .waiting =>
    decidable_of_iff ((∀ r ∈ m.retries, til ≤ r.due) ∧ m.inbox = [] ∧ til ≤ m.tick)
      (by simp [IdleUntil, hp])
  | .reconciling .. | .stopped =>
    decidable_of_iff (∀ r ∈ m.retries, til ≤ r.due) (by simp [IdleUntil, hp])

inductive Turn where
  | act (x : Action)
  | wait (til : Nat)

def play : Nat × Manager → List Turn → Option (History × Nat × Manager)
  | s, [] => some ([], s)
  | (t, m), .act x :: xs => do
    let (m, ns) ← m.step? t x
    let (h, s) ← play (t, m) xs
    some (stamp t ns ++ h, s)
  | (t, m), .wait til :: xs => if t ≤ til ∧ m.IdleUntil til then play (til, m) xs else none

theorem play_extends {s s' s'' : Nat × Manager} {xs : List Turn} (hr : Run s'' g s)
    (hp : play s xs = some (h, s')) : Run s'' (g ++ h) s' := by
  induction xs generalizing g h s with
  | nil =>
    cases hp
    rwa [List.append_nil]
  | cons x xs ih =>
    obtain ⟨t, m⟩ := s
    cases x with
    | act x =>
      simp only [play, Option.bind_eq_bind, Option.bind_eq_some_iff] at hp
      obtain ⟨⟨n, ns⟩, hx, ⟨f, s⟩, hs, he⟩ := hp
      cases he
      rw [← List.append_assoc]
      exact ih (hr.act hx) hs
    | wait til =>
      simp only [play] at hp
      split at hp
      · next hc => exact ih (hr.wait hc.1 hc.2) hp
      · cases hp

theorem play_run {s : Nat × Manager} (xs : List Turn) {P : History → Nat × Manager → Bool}
    (hp : (play s xs).any (fun x => P x.1 x.2) = true) : ∃ h s', Run s h s' ∧ P h s' = true := by
  cases he : play s xs with
  | none =>
    rw [he] at hp
    cases hp
  | some x =>
    rw [he] at hp
    exact ⟨x.1, x.2, play_extends .refl he, hp⟩

end Manager

end TokenCourier
