import TokenCourier.Proofs.Api.Dialogue
import TokenCourier.Proofs.Manager.Run

namespace TokenCourier

/-- How a reconciliation came out, and what was shown from there to the beginning of the next. -/
structure Ending where
  result : Except SyncError Outcome
  after : List Entry := []

structure ReconciliationLog where
  cause : Cause
  key : ObjectKey
  start : Nat
  shown : List Entry := []
  ending : Option Ending := none

namespace ReconciliationLog

def add (c : ReconciliationLog) (e : Entry) : ReconciliationLog :=
  match c.ending with
  | none => { c with shown := c.shown ++ [e] }
  | some x => { c with ending := some { x with after := x.after ++ [e] } }

def close (c : ReconciliationLog) (r : Except SyncError Outcome) : ReconciliationLog :=
  match c.ending with
  | none => { c with ending := some ⟨r, []⟩ }
  | some x => { c with ending := some { x with result := r } }

def entries (c : ReconciliationLog) : List Entry := c.shown ++ c.ending.elim [] (·.after)

theorem add_entries (c : ReconciliationLog) (e : Entry) : (c.add e).entries = c.entries ++ [e] := by
  cases he : c.ending <;> simp [add, entries, he]

theorem close_entries (c : ReconciliationLog) (r : Except SyncError Outcome) :
    (c.close r).entries = c.entries := by
  cases he : c.ending <;> simp [close, entries, he]

end ReconciliationLog

/-- What is shown before the first reconciliation, and the reconciliations, the latest first. -/
structure RunLog where
  lead : List Entry := []
  reconciliations : List ReconciliationLog := []

namespace RunLog

def enter (T : RunLog) : Nat × Note → RunLog
  | (t, .began c k) =>
    { T with reconciliations := { cause := c, key := k, start := t } :: T.reconciliations }
  | (_, .shown e) =>
    match T.reconciliations with
    | [] => { T with lead := T.lead ++ [e] }
    | c :: cs => { T with reconciliations := c.add e :: cs }
  | (_, .ended _ r) =>
    match T.reconciliations with
    | [] => T
    | c :: cs => { T with reconciliations := c.close r :: cs }
  | _ => T

def entries (T : RunLog) : List Entry :=
  T.lead ++ T.reconciliations.reverse.flatMap ReconciliationLog.entries

def beginnings (T : RunLog) : List (Nat × Cause × ObjectKey) :=
  T.reconciliations.reverse.map fun c => (c.start, c.cause, c.key)

theorem enter_entries (T : RunLog) (t : Nat) (n : Note) :
    (T.enter (t, n)).entries = T.entries ++ ( Note.entry? n).toList := by
  obtain ⟨lead, cs⟩ := T
  cases n with
  | began c k => simp [enter, entries, ReconciliationLog.entries, Note.entry?]
  | shown e =>
    cases cs <;> simp [enter, entries, ReconciliationLog.add_entries, Note.entry?]
  | ended k r =>
    cases cs <;> simp [enter, entries, ReconciliationLog.close_entries, Note.entry?]
  | accepted | armed => simp [enter, Note.entry?]

theorem enter_beginnings (T : RunLog) (t : Nat) (n : Note) :
    (T.enter (t, n)).beginnings = T.beginnings ++ History.begun [(t, n)] := by
  obtain ⟨lead, cs⟩ := T
  cases n with
  | began c k => simp [enter, beginnings, History.begun]
  | shown e =>
    cases cs with
    | nil => simp [enter, beginnings, History.begun]
    | cons c cs =>
      cases he : c.ending <;>
        simp [enter, beginnings, History.begun, ReconciliationLog.add, he]
  | ended k r =>
    cases cs with
    | nil => simp [enter, beginnings, History.begun]
    | cons c cs =>
      cases he : c.ending <;>
        simp [enter, beginnings, History.begun, ReconciliationLog.close, he]
  | accepted | armed => simp [enter, History.begun]

end RunLog

namespace History

def runLog (h : History) : RunLog := h.foldl RunLog.enter {}

def shown (h : History) : List Entry := h.filterMap fun x => Note.entry? x.2

variable (h g : History) (t : Nat)

theorem runLog_append : (h ++ g).runLog = g.foldl RunLog.enter h.runLog := List.foldl_append

theorem runLog_concat (x : Nat × Note) : runLog (h ++ [x]) = h.runLog.enter x := runLog_append h [x]

theorem runLog_entries : h.runLog.entries = h.shown := by
  induction h using List.reverseRecOn with
  | nil => rfl
  | append_singleton h x ih =>
    rw [runLog_concat, RunLog.enter_entries, ih, shown, shown, List.filterMap_append]
    cases hx : Note.entry? x.2 <;> simp [hx]

theorem runLog_beginnings : h.runLog.beginnings = h.begun := by
  induction h using List.reverseRecOn with
  | nil => rfl
  | append_singleton h x ih =>
    rw [runLog_concat, RunLog.enter_beginnings, ih, begun_append]

variable {h} {lead : List Entry} {a : ReconciliationLog} {as : List ReconciliationLog}

theorem runLog_began (c : Cause) (k : ObjectKey) : runLog (h ++ [(t, .began c k)])
    = ⟨h.runLog.lead, { cause := c, key := k, start := t } :: h.runLog.reconciliations⟩ :=
  runLog_concat h _

theorem runLog_accepted (ps : List Post) :
    (h ++ (ps.map Note.accepted).map (t, ·)).runLog = h.runLog := by
  induction ps generalizing h with
  | nil => simp
  | cons p ps ih =>
    have hp := ih (h := h ++ [(t, .accepted p)])
    rw [runLog_concat, List.append_assoc] at hp
    exact hp

theorem runLog_shown (ht : h.runLog = ⟨lead, a :: as⟩) (e : Entry) :
    runLog (h ++ [(t, .shown e)]) = ⟨lead, a.add e :: as⟩ := by
  rw [runLog_concat, ht]
  rfl

theorem runLog_ended (ht : h.runLog = ⟨lead, a :: as⟩) (k : ObjectKey)
    (r : Except SyncError Outcome) :
    runLog (h ++ [(t, .ended k r)]) = ⟨lead, a.close r :: as⟩ := by
  rw [runLog_concat, ht]
  rfl

/-- Lines that are logged before a reconciliation ends are its own. -/
theorem runLog_logs_open (ht : h.runLog = ⟨lead, a :: as⟩) (ha : a.ending = none)
    (ls : List LogLine) : runLog (h ++ (Manager.logs ls).map (t, ·))
      = ⟨lead, { a with shown := a.shown ++ ls.map .log } :: as⟩ := by
  induction ls generalizing h a with
  | nil => simpa [Manager.logs] using ht
  | cons l ls ih =>
    have hl := ih (runLog_shown t ht (.log l)) (by simp [ReconciliationLog.add, ha])
    simp only [ReconciliationLog.add, ha] at hl
    simpa [Manager.logs, ha] using hl

theorem runLog_logs_over {x : Ending} (ht : h.runLog = ⟨lead, a :: as⟩) (ha : a.ending = some x)
    (ls : List LogLine) : runLog (h ++ (Manager.logs ls).map (t, ·))
      = ⟨lead, { a with ending := some { x with after := x.after ++ ls.map .log } } :: as⟩ := by
  induction ls generalizing h a x with
  | nil => simpa [Manager.logs, ← ha] using ht
  | cons l ls ih =>
    have hl := ih (runLog_shown t ht (.log l)) (x := { x with after := x.after ++ [.log l] })
      (by simp [ReconciliationLog.add, ha])
    simp only [ReconciliationLog.add, ha] at hl
    simpa [Manager.logs] using hl

end History

namespace Manager

def conclusion (key : ObjectKey) : Except SyncError Outcome → LogLine
  | .ok o => reconciled key o
  | .error e => e.report

/-- The entries are those of one reconciliation of its own key. Once it is over it is reported, and
nothing else is asked until the next one begins. -/
structure OneReconciliation (cluster : ObjectKey) (c : ReconciliationLog) : Prop where
  shown : ∃ said y, (Exchange.reconcile cluster c.key).RunsTo said y ∧
    c.shown = said.map Said.entry ∧ ∀ x ∈ c.ending, y = .done x.result
  after : ∀ x ∈ c.ending, ∃ ls, x.after = (conclusion c.key x.result :: ls).map .log ∧
    ∀ l ∈ ls, l = initialDone ∨ l = closed

def Asks (cluster : ObjectKey) (c : ReconciliationLog)
    (next : Answer → Exchange (Except SyncError Outcome)) : Prop :=
  ∃ said s r, (Exchange.reconcile cluster c.key).RunsTo said (.ask s r next) ∧
    c.shown = said.map Said.entry ++ [.sent s r]

variable {t : Nat} {m n : Manager} {h : History} {cause : Cause} {key cluster : ObjectKey}
  {r : Except SyncError Outcome} {lead : List Entry} {a : ReconciliationLog}
  {as : List ReconciliationLog}
  {ns : List Note}

theorem conclude_runLog (ht : h.runLog = ⟨lead, a :: as⟩) (ha : a.ending = none) :
    (h ++ stamp t (m.conclude t key r).2).runLog
      = ⟨lead, { a with ending := some ⟨r, [.log (conclusion key r)]⟩ } :: as⟩ := by
  have hc : History.runLog (h ++ [(t, .ended key r)])
      = ⟨lead, { a with ending := some ⟨r, []⟩ } :: as⟩ := by
    rw [History.runLog_ended t ht, ReconciliationLog.close, ha]
  have hl := History.runLog_logs_over t hc rfl [conclusion key r]
  rw [List.append_assoc] at hl
  cases r with
  | ok o => exact hl
  | error e =>
    have hr : h ++ stamp t (m.conclude t key (.error e)).2
        = (h ++ ([(t, .ended key (.error e))] ++ (logs [conclusion key (.error e)]).map (t, ·)))
          ++ [(t, .armed ⟨m.spawned, key, t + retryDelay⟩)] := by
      simp [conclude, stamp, logs, conclusion]
    rw [hr, History.runLog_concat, hl]
    rfl

theorem finish_runLog (cause : Cause) (key : ObjectKey) (ht : h.runLog = ⟨lead, a :: as⟩)
    (ha : a.ending = none) :
    ∃ ls, (h ++ stamp t (m.finish t cause key r).2).runLog = ⟨lead, { a with
        ending := some ⟨r, (conclusion key r :: ls).map .log⟩ } :: as⟩ ∧
      ∀ l ∈ ls, l = initialDone ∨ l = closed := by
  have hc : (h ++ stamp t (m.conclude t key r).2).runLog = _ := conclude_runLog ht ha
  unfold finish
  cases cause with
  | post p | tick => exact ⟨[], hc, nofun⟩
  | start =>
    have hi := History.runLog_logs_over t hc rfl [initialDone]
    dsimp only
    simp only [stamp_append, ← List.append_assoc]
    unfold listen
    split
    · exact ⟨[initialDone], by simpa [stamp] using hi, by simp⟩
    · have hs := History.runLog_logs_over t hi rfl
        ((m.conclude t key r).1.blocked.map fun _ => closed)
      refine ⟨initialDone :: (m.conclude t key r).1.blocked.map fun _ => closed, ?_, by simp⟩
      simpa [stamp, stop] using hs

/-- How the phase of a manager fits the log of the run that led to it. -/
structure LogFits (cluster : ObjectKey) (m : Manager) (h : History) : Prop where
  lead : h.runLog.lead = if h.runLog.reconciliations = [] then [] else [.log (started cluster)]
  single : ∀ c ∈ h.runLog.reconciliations, OneReconciliation cluster c
  past : ∀ c ∈ h.runLog.reconciliations.tail, c.ending.isSome
  fresh : m.phase = .fresh → h.runLog.reconciliations = []
  asks : ∀ c k next, m.phase = .reconciling c k next → ∃ a as, h.runLog.reconciliations = a :: as ∧
    a.cause = c ∧ a.key = k ∧ a.ending = none ∧ Asks cluster a next
  rests : m.phase = .waiting ∨ m.phase = .stopped → ∃ a as, h.runLog.reconciliations = a :: as ∧
    a.ending.isSome

theorem opening_logFits (watched : ObjectKey) (period : Nat) :
    LogFits cluster (opening cluster watched period) [] where
  lead := rfl
  single c hc := by cases hc
  past c hc := by cases hc
  fresh _ := rfl
  asks c k next hp := by cases hp
  rests hp := by cases hp <;> contradiction

theorem Asks.single {next : Answer → Exchange (Except SyncError Outcome)}
    (hn : Asks cluster a next) (ha : a.ending = none) : OneReconciliation cluster a := by
  obtain ⟨said, s, r, hg, hs⟩ := hn
  refine ⟨⟨_, _, hg.trans (.ask (.error "") (.refl _)), ?_, by simp [ha]⟩, by simp [ha]⟩
  simp [hs, Said.entry]

section Latest

variable (ht : h.runLog = ⟨[.log (started cluster)], a :: as⟩)
  (has : ∀ c ∈ as, OneReconciliation cluster c ∧ c.ending.isSome)

include ht has

theorem logFits_of_asks {next : Answer → Exchange (Except SyncError Outcome)}
    (hp : m.phase = .reconciling cause key next) (hc : a.cause = cause) (hk : a.key = key)
    (ha : a.ending = none) (hn : Asks cluster a next) : LogFits cluster m h := by
  refine ⟨by simp [ht], ?_, ?_, by simp [hp], ?_, by simp [hp]⟩ <;> rw [ht]
  · exact List.forall_mem_cons.mpr ⟨hn.single ha, fun c hc => (has c hc).1⟩
  · exact fun c hc => (has c hc).2
  · intro c k x hx
    cases hp.symm.trans hx
    exact ⟨a, as, rfl, hc, hk, ha, hn⟩

theorem logFits_of_ended (hp : m.phase = .waiting ∨ m.phase = .stopped) (ha : a.ending.isSome)
    (hn : OneReconciliation cluster a) : LogFits cluster m h := by
  refine ⟨by simp [ht], ?_, ?_, ?_, ?_, fun _ => ⟨a, as, by rw [ht], ha⟩⟩
  · rw [ht]
    exact List.forall_mem_cons.mpr ⟨hn, fun c hc => (has c hc).1⟩
  · rw [ht]
    exact fun c hc => (has c hc).2
  · obtain hp | hp := hp <;> simp [hp]
  · obtain hp | hp := hp <;> simp [hp]

theorem proceed_logFits {x : Exchange (Except SyncError Outcome)} {said : List Said}
    (hc : a.cause = cause) (hk : a.key = key) (ha : a.ending = none)
    (hx : (Exchange.reconcile cluster key).RunsTo said x) (hs : a.shown = said.map Said.entry) :
    LogFits cluster (m.proceed t cause key x).1 (h ++ stamp t (m.proceed t cause key x).2) := by
  subst hk
  have hadv := hx.trans (Exchange.runsTo_advance x)
  have hl := History.runLog_logs_open t ht ha x.advance.1
  have hsaid : a.shown ++ x.advance.1.map Entry.log
      = (said ++ x.advance.1.map Said.log).map Said.entry := by
    simp [hs, Said.entry]
  rw [hsaid] at hl
  generalize said ++ x.advance.1.map Said.log = said at hadv hl
  unfold proceed
  split
  · next lines s r next he =>
    rw [he] at hadv hl
    have hl := History.runLog_shown t hl (.sent s r)
    simp only [ReconciliationLog.add, ha] at hl
    rw [stamp_append, ← List.append_assoc]
    exact logFits_of_asks hl has rfl hc rfl rfl ⟨said, s, r, hadv, rfl⟩
  · next lines r he =>
    rw [he] at hadv hl
    obtain ⟨ls, hf, hls⟩ := finish_runLog (m := m) (r := r) (t := t) cause a.key hl ha
    rw [stamp_append, ← List.append_assoc]
    refine logFits_of_ended hf has ?_ rfl ⟨⟨said, _, hadv, rfl, ?_⟩, ?_⟩
    · exact (finish_phase r).imp_right And.right
    · simp [Exchange.Pause.rest]
    · simpa using ⟨ls, rfl, hls⟩

end Latest

theorem abandon_cluster (m : Manager) : m.abandon.cluster = m.cluster := by
  unfold abandon
  split <;> rfl

theorem begin_logFits (hm : m.cluster = cluster) (hl : h.runLog.lead = [.log (started cluster)])
    (has : ∀ c ∈ h.runLog.reconciliations, OneReconciliation cluster c ∧ c.ending.isSome) :
    LogFits cluster (m.begin t cause key).1 (h ++ stamp t (m.begin t cause key).2) := by
  have hb : History.runLog (h ++ [(t, .began cause key)])
      = ⟨[.log (started cluster)], { cause, key, start := t } :: h.runLog.reconciliations⟩ := by
    rw [History.runLog_began, hl]
  have ht := History.runLog_accepted t (h := h ++ [(t, .began cause key)])
    (m.abandon.blocked.take (capacity - m.abandon.inbox.length))
  have hc : m.abandon.letIn.1.cluster = cluster := (abandon_cluster m).trans hm
  have hp := proceed_logFits (m := m.abandon.letIn.1) (t := t) (ht.trans hb) has rfl rfl rfl
    (.refl (Exchange.reconcile cluster key)) rfl
  rw [begin_eq, hc]
  simpa [stamp, letIn] using hp

theorem LogFits.same {g : History} (hT : LogFits cluster m h) (ht : g.runLog = h.runLog)
    (hp : n.phase = m.phase) : LogFits cluster n g := by
  obtain ⟨hl, hs, ho, hf, ha, hr⟩ := hT
  rw [← ht] at hl hs ho hf ha hr
  exact ⟨hl, hs, ho, hp ▸ hf, hp ▸ ha, hp ▸ hr⟩

theorem LogFits.ended (hT : LogFits cluster m h) (hp : m.phase = .waiting ∨ m.phase = .stopped) :
    h.runLog.lead = [.log (started cluster)] ∧
      ∀ c ∈ h.runLog.reconciliations, OneReconciliation cluster c ∧ c.ending.isSome := by
  obtain ⟨a, as, ha, hx⟩ := hT.rests hp
  refine ⟨by simp [hT.lead, ha], fun c hc => ⟨hT.single c hc, ?_⟩⟩
  have hpast := hT.past
  rw [ha] at hpast hc
  obtain rfl | hc := List.mem_cons.mp hc
  · exact hx
  · exact hpast c hc

theorem send_logFits (hT : LogFits cluster m h) (p : Post) :
    LogFits cluster (m.send p).1 (h ++ stamp t (m.send p).2) := by
  by_cases hp : m.phase = .stopped
  · rw [send_stopped hp]
    obtain ⟨a, as, hch, hx⟩ := hT.rests (.inr hp)
    obtain ⟨hl, hs⟩ := hT.ended (.inr hp)
    obtain ⟨x, hx⟩ := Option.isSome_iff_exists.mp hx
    have hta : h.runLog = ⟨[.log (started cluster)], a :: as⟩ := by
      rw [← hl, ← hch]
    rw [hch] at hs
    obtain ⟨⟨hta', -⟩, has⟩ := List.forall_mem_cons.mp hs
    obtain ⟨ls, hls, hlc⟩ := hta'.after x hx
    refine logFits_of_ended (History.runLog_logs_over t hta hx [closed]) has (.inr hp) rfl ⟨?_, ?_⟩
    · simpa [hx] using hta'.shown
    · simp only [Option.mem_def, Option.some.injEq, forall_eq']
      exact ⟨ls ++ [closed], by simp [hls], List.forall_mem_append.mpr ⟨hlc, by simp⟩⟩
  · rw [send_running hp]
    exact hT.same (History.runLog_accepted t _) rfl

theorem step_logFits {x : Action} (hm : m.cluster = cluster) (hT : LogFits cluster m h)
    (hx : m.step? t x = some (n, ns)) : LogFits cluster n (h ++ stamp t ns) := by
  have hx := step_cases hx
  cases x with
  | start =>
    obtain ⟨hp, he⟩ := hx
    cases he
    have hch := hT.fresh hp
    have hl : h.runLog = ⟨[], []⟩ := by
      have hl := hT.lead
      rw [if_pos hch] at hl
      rw [← hch, ← hl]
    have hs : History.runLog (h ++ stamp t (logs [started m.cluster]))
        = ⟨[.log (started cluster)], []⟩ := by
      rw [stamp, logs, List.map_singleton, List.map_singleton, History.runLog_concat, hl, hm]
      rfl
    rw [stamp_append, ← List.append_assoc]
    exact begin_logFits hm (by rw [hs]) (by simp [hs])
  | send id e =>
    have hs := send_logFits (t := t) hT ⟨.outside id, e⟩
    rwa [hx] at hs
  | fire id =>
    obtain ⟨r, -, -, -, he⟩ := hx
    have hn : LogFits cluster { m with retries := m.retries.filter (·.id != id) } h :=
      hT.same rfl rfl
    have hs := send_logFits (t := t) hn r.post
    rwa [he] at hs
  | receive =>
    obtain ⟨p, ps, hp, -, he⟩ := hx
    cases he
    obtain ⟨hl, hs⟩ := hT.ended (.inl hp)
    exact begin_logFits hm hl hs
  | tick =>
    obtain ⟨hp, he⟩ := hx
    cases he
    obtain ⟨hl, hs⟩ := hT.ended (.inl hp)
    exact begin_logFits hm hl hs
  | answer a =>
    obtain ⟨c, k, next, hp, he⟩ := hx
    obtain ⟨b, bs, hch, rfl, rfl, hb, said, s, r, hg, hs⟩ := hT.asks c k next hp
    have ht : h.runLog = ⟨[.log (started cluster)], b :: bs⟩ := by
      have hl := hT.lead
      rw [hch, if_neg (by simp)] at hl
      rw [← hl, ← hch]
    have hbs : ∀ c ∈ bs, OneReconciliation cluster c ∧ c.ending.isSome := by
      have hpast := hT.past
      have hsingle := hT.single
      rw [hch] at hpast hsingle
      exact fun c hc => ⟨hsingle c (List.mem_cons_of_mem b hc), hpast c hc⟩
    have hn := proceed_logFits (m := m) (t := t) ht hbs rfl rfl hb
      (hg.trans (.ask a (.refl (next a)))) (by simp [hs, Said.entry])
    rwa [he] at hn

variable {watched : ObjectKey} {period : Nat}

theorem run_identity (hr : Run (0, opening cluster watched period) h (t, m)) :
    m.cluster = cluster ∧ m.watched = watched := by
  refine run_keeps (I := fun _ s => s.1.cluster = cluster ∧ s.1.watched = watched) ⟨rfl, rfl⟩
    ?_ (fun _ _ _ hi _ _ => hi) hr
  rintro t ⟨m, h⟩ s ⟨hc, hw⟩ hm
  cases hm with
  | begins c inbox =>
    unfold abandon
    split <;> exact ⟨hc, hw⟩
  | _ => exact ⟨hc, hw⟩

theorem run_logFits (hr : Run (0, opening cluster watched period) h (t, m)) :
    LogFits cluster m h := by
  generalize hs : (0, opening cluster watched period) = s at hr
  generalize he : (t, m) = s' at hr
  induction hr generalizing t m with
  | refl =>
    cases hs
    cases he
    exact opening_logFits watched period
  | act hr hx ih =>
    cases he
    cases hs
    exact step_logFits (run_identity hr).1 (ih rfl) hx
  | wait _ _ _ ih =>
    cases he
    exact ih rfl

end Manager

end TokenCourier
