import TokenCourier.Proofs.Manager.Order

namespace TokenCourier

namespace History

def ticks (h : History) : List Nat :=
  h.begun.filterMap fun
    | (t, .tick, _) => some t
    | _ => none

def ends (h : History) : List Nat :=
  h.filterMap fun
    | (t, .ended ..) => some t
    | _ => none

def synced (h : History) : Option Nat := h.ends.head?

variable (h g : History) (t : Nat)

theorem ticks_append : (h ++ g).ticks = h.ticks ++ g.ticks := by
  rw [ticks, begun_append, List.filterMap_append, ticks, ticks]

theorem ticks_of_begun (hb : h.begun = []) : h.ticks = [] := by
  rw [ticks, hb, List.filterMap_nil]

theorem ends_append : (h ++ g).ends = h.ends ++ g.ends := List.filterMap_append

theorem synced_append : (h ++ g).synced = h.synced.or g.synced := by
  rw [synced, ends_append, List.head?_append, synced, synced]

theorem synced_stays {u : Nat} (hu : h.synced = some u) : (h ++ g).synced = some u := by
  rw [synced_append, hu, Option.some_or]

end History

namespace Manager

variable {p t u : Nat} {m n : Manager} {h g : History} {cause : Cause} {key : ObjectKey}
  {ns : List Note} {x : Action}

def InReach (p t : Nat) : Prop := 0 < p ∧ t + p < clockLimit

/-- What is known at any time of the ticks that were, and of the deadlines that are to come. -/
structure Timed (p t : Nat) (m : Manager) (h : History) : Prop where
  period : m.period = p
  soon : m.tick ≤ t + p
  retries : ∀ r ∈ m.retries, r.due ≤ t + retryDelay
  past : ∀ u ∈ h.synced, u ≤ t
  spaced : h.ticks.IsChain fun a b => a + p ≤ b + lateness
  next : ∀ a ∈ h.ticks.getLast?, a + p ≤ m.tick + lateness
  first : ∀ a ∈ h.ticks.head?, ∃ u ∈ h.synced, u + p ≤ a

def Unsynced (h : History) : Prop := h.ends = [] ∧ h.ticks = []

/-- The first tick is due a period after the initial reconciliation. -/
def Ticking (p : Nat) (m : Manager) (h : History) : Prop :=
  ∃ u ∈ h.synced, InReach p u ∧ (h.ticks = [] → u + p ≤ m.tick)

def Halted (p : Nat) (h : History) : Prop := ∃ u ∈ h.synced, ¬ InReach p u

/-- What holds of the ticks while a reconciliation with this cause is under way. -/
def MidReconciliation (p : Nat) (m : Manager) (h : History) : Cause → Prop
  | .start => Unsynced h
  | .post _ | .tick => Ticking p m h

def Progress (p : Nat) (m : Manager) (h : History) : Prop :=
  match m.phase with
  | .fresh => Unsynced h
  | .reconciling cause _ _ => MidReconciliation p m h cause
  | .waiting => Ticking p m h
  | .stopped => Halted p h

structure Paced (p t : Nat) (m : Manager) (h : History) : Prop extends Timed p t m h where
  progress : Progress p m h

structure Idle (g : History) : Prop where
  ticks : g.ticks = []
  ends : g.ends = []

section Idle

theorem Idle.append (hh : Idle h) (hg : Idle g) : Idle (h ++ g) where
  ticks := by rw [History.ticks_append, hh.ticks, hg.ticks, List.append_nil]
  ends := by rw [History.ends_append, hh.ends, hg.ends, List.append_nil]

theorem idle_logs (ls : List LogLine) : Idle (stamp t (logs ls)) where
  ticks := History.ticks_of_begun _ (accepted_inner (inner_logs ls)).2
  ends := by simp [History.ends, stamp, logs]

theorem idle_came (ps : List Post) : Idle (stamp t (ps.map .accepted)) where
  ticks := History.ticks_of_begun _ (History.begun_came t ps)
  ends := by simp [History.ends, stamp]

theorem idle_began (hc : cause ≠ .tick) : Idle [(t, .began cause key)] where
  ticks := by
    cases cause with
    | tick => exact absurd rfl hc
    | start | post => rfl
  ends := rfl

theorem Idle.ticks_eq (hg : Idle g) (h : History) : (h ++ g).ticks = h.ticks := by
  rw [History.ticks_append, hg.ticks, List.append_nil]

theorem Idle.ends_eq (hg : Idle g) (h : History) : (h ++ g).ends = h.ends := by
  rw [History.ends_append, hg.ends, List.append_nil]

theorem Idle.synced_eq (hg : Idle g) (h : History) : (h ++ g).synced = h.synced :=
  congrArg List.head? (hg.ends_eq h)

theorem Timed.idle (hm : Timed p t m h) (hp : n.period = m.period) (ht : n.tick = m.tick)
    (hr : n.retries ⊆ m.retries) (hg : Idle g) : Timed p t n (h ++ g) := by
  have hk : (h ++ g).ticks = h.ticks := hg.ticks_eq h
  have hs : (h ++ g).synced = h.synced := hg.synced_eq h
  constructor
  · exact hp.trans hm.period
  · rw [ht]
    exact hm.soon
  · exact fun r hn => hm.retries r (hr hn)
  · rw [hs]
    exact hm.past
  · rw [hk]
    exact hm.spaced
  · rw [hk, ht]
    exact hm.next
  · rw [hk, hs]
    exact hm.first

theorem Unsynced.idle (hm : Unsynced h) (hg : Idle g) : Unsynced (h ++ g) :=
  ⟨(hg.ends_eq h).trans hm.1, (hg.ticks_eq h).trans hm.2⟩

theorem Ticking.idle (hm : Ticking p m h) (ht : n.tick = m.tick) (hg : Idle g) :
    Ticking p n (h ++ g) := by
  unfold Ticking
  rw [hg.synced_eq, hg.ticks_eq, ht]
  exact hm

theorem MidReconciliation.idle (hm : MidReconciliation p m h cause) (ht : n.tick = m.tick)
    (hg : Idle g) : MidReconciliation p n (h ++ g) cause := by
  cases cause with
  | start => exact Unsynced.idle hm hg
  | post | tick => exact Ticking.idle hm ht hg

theorem Halted.idle (hm : Halted p h) (hg : Idle g) : Halted p (h ++ g) := by
  unfold Halted
  rw [hg.synced_eq]
  exact hm

theorem Paced.idle (hm : Paced p t m h) (hp : n.period = m.period) (ht : n.tick = m.tick)
    (hr : n.retries ⊆ m.retries) (hf : n.phase = m.phase) (hg : Idle g) :
    Paced p t n (h ++ g) := by
  refine ⟨hm.toTimed.idle hp ht hr hg, ?_⟩
  have ho := hm.progress
  unfold Progress at ho ⊢
  rw [hf]
  cases hq : m.phase with
  | fresh =>
    rw [hq] at ho
    exact Unsynced.idle ho hg
  | reconciling c k f =>
    rw [hq] at ho
    exact MidReconciliation.idle ho ht hg
  | waiting =>
    rw [hq] at ho
    exact Ticking.idle ho ht hg
  | stopped =>
    rw [hq] at ho
    exact Halted.idle ho hg

end Idle

section Ending

variable (r : Except SyncError Outcome)

theorem conclude_timed (hm : Timed p t m h) : Timed p t (m.conclude t key r).1 h := by
  cases r with
  | ok o => exact hm
  | error e =>
    refine { hm with retries := fun r hr => ?_ }
    obtain hr | hr := List.mem_append.mp hr
    · exact hm.retries r hr
    · obtain rfl := List.mem_singleton.mp hr
      exact Nat.le_refl _

theorem conclude_tick : (m.conclude t key r).1.tick = m.tick := by
  cases r <;> rfl

theorem conclude_ticks : History.ticks (stamp t (m.conclude t key r).2) = [] := by
  cases r <;> rfl

theorem conclude_ends : History.ends (stamp t (m.conclude t key r).2) = [t] := by
  cases r <;> rfl

theorem Timed.ended (hm : Timed p t m h) (hk : g.ticks = []) (he : g.ends = [t]) :
    Timed p t m (h ++ g) := by
  have hk : (h ++ g).ticks = h.ticks := by rw [History.ticks_append, hk, List.append_nil]
  have hs : (h ++ g).synced = h.synced.or (some t) := by
    rw [History.synced_append, History.synced, History.synced, he]
    rfl
  refine ⟨hm.period, hm.soon, hm.retries, fun u hu => ?_, ?_, ?_, ?_⟩
  · rw [hs, Option.mem_def, Option.or_eq_some_iff] at hu
    obtain hu | ⟨-, hu⟩ := hu
    · exact hm.past u hu
    · cases hu
      exact Nat.le_refl _
  · rw [hk]
    exact hm.spaced
  · rw [hk]
    exact hm.next
  · rw [hk]
    intro a ha
    obtain ⟨u, hu, hl⟩ := hm.first a ha
    exact ⟨u, History.synced_stays h g hu, hl⟩

theorem Unsynced.ended (hm : Unsynced h) (he : g.ends = [t]) : (h ++ g).synced = some t := by
  rw [History.synced, History.ends_append, hm.1, he]
  rfl

theorem Ticking.ended (hm : Ticking p m h) (ht : n.tick = m.tick) (hk : g.ticks = []) :
    Ticking p n (h ++ g) := by
  obtain ⟨u, hu, hr, hf⟩ := hm
  refine ⟨u, History.synced_stays h g hu, hr, ?_⟩
  rw [History.ticks_append, hk, List.append_nil, ht]
  exact hf

theorem listen_paced (hm : Timed p t m h) (hk : h.ticks = []) (hs : h.synced = some t) :
    Paced p t (m.listen t).1 (h ++ stamp t (m.listen t).2) := by
  obtain rfl := hm.period
  unfold listen
  split
  · next hc =>
    rw [stamp, List.map_nil, List.append_nil]
    refine ⟨{ hm with soon := Nat.le_refl _, next := ?_ }, t, hs, hc, fun _ => Nat.le_refl _⟩
    intro a ha
    rw [hk] at ha
    cases ha
  · next hc =>
    have hg : Idle (stamp t (logs (m.blocked.map fun _ => closed))) := idle_logs _
    refine ⟨hm.idle rfl rfl (List.Subset.refl _) hg, t, ?_, hc⟩
    exact (hg.synced_eq h).trans hs

theorem finish_paced (hm : Timed p t m h) (ha : MidReconciliation p m h cause) :
    Paced p t (m.finish t cause key r).1 (h ++ stamp t (m.finish t cause key r).2) := by
  have hk : History.ticks (stamp t (m.conclude t key r).2) = [] := conclude_ticks r
  have he : History.ends (stamp t (m.conclude t key r).2) = [t] := conclude_ends r
  have ht : (m.conclude t key r).1.tick = m.tick := conclude_tick r
  have hc : Timed p t (m.conclude t key r).1 h := conclude_timed r hm
  have hc := hc.ended hk he
  unfold finish
  generalize m.conclude t key r = y at hk he ht hc
  obtain ⟨n, ns⟩ := y
  cases cause with
  | post | tick =>
    have hn : Ticking p n (h ++ stamp t ns) := Ticking.ended ha ht hk
    exact ⟨{ hc with }, hn⟩
  | start =>
    have hs : (h ++ stamp t ns).synced = some t := Unsynced.ended ha he
    have hz : (h ++ stamp t ns).ticks = [] := by
      rw [History.ticks_append, hk, ha.2, List.append_nil]
    have hg : Idle (stamp t (logs [initialDone])) := idle_logs _
    have hl := listen_paced (hc.idle rfl rfl (List.Subset.refl _) hg) ((hg.ticks_eq _).trans hz)
      ((hg.synced_eq _).trans hs)
    simp only [stamp_append, ← List.append_assoc]
    exact hl

theorem proceed_paced (key : ObjectKey) (hm : Timed p t m h) (ha : MidReconciliation p m h cause)
    (x : Exchange (Except SyncError Outcome)) :
    Paced p t (m.proceed t cause key x).1 (h ++ stamp t (m.proceed t cause key x).2) := by
  unfold proceed
  split
  · next lines s r f _ =>
    have hr : Idle [(t, .shown (.sent s r))] := ⟨rfl, rfl⟩
    have hg : Idle (stamp t (logs lines ++ [.shown (.sent s r)])) := by
      rw [stamp_append]
      exact (idle_logs lines).append hr
    exact ⟨hm.idle rfl rfl (List.Subset.refl _) hg, ha.idle rfl hg⟩
  · next lines r _ =>
    have hg : Idle (stamp t (logs lines)) := idle_logs lines
    have hf : Paced p t (m.finish t cause key r).1
        (h ++ stamp t (logs lines) ++ stamp t (m.finish t cause key r).2) :=
      finish_paced r (hm.idle rfl rfl (List.Subset.refl _) hg) (ha.idle rfl hg)
    rw [List.append_assoc, ← stamp_append] at hf
    exact hf

end Ending

section Steps

theorem send_paced (hm : Paced p t m h) (q : Post) :
    Paced p t (m.send q).1 (h ++ stamp t (m.send q).2) := by
  by_cases hp : m.phase = .stopped
  · rw [send_stopped hp]
    exact hm.idle rfl rfl (List.Subset.refl _) rfl (idle_logs _)
  · rw [send_running hp]
    exact hm.idle rfl rfl (List.Subset.refl _) rfl (idle_came _)

theorem send_tick (q : Post) : (m.send q).1.tick = m.tick := by
  by_cases hp : m.phase = .stopped
  · rw [send_stopped hp]
  · rw [send_running hp]
    rfl

theorem abandon_tick (m : Manager) : m.abandon.tick = m.tick := by
  unfold abandon
  split <;> rfl

theorem abandon_period (m : Manager) : m.abandon.period = m.period := by
  unfold abandon
  split <;> rfl

theorem begin_paced (hm : Timed p t m (h ++ [(t, .began cause key)]))
    (ha : MidReconciliation p m (h ++ [(t, .began cause key)]) cause) :
    Paced p t (m.begin t cause key).1 (h ++ stamp t (m.begin t cause key).2) := by
  have hg : Idle (stamp t ((m.abandon.blocked.take (capacity - m.abandon.inbox.length)).map
    .accepted)) := idle_came _
  have hx := proceed_paced (m := m.abandon.letIn.1) key
    (hm.idle (abandon_period m) (abandon_tick m) (abandon_retries m).subset hg)
    (ha.idle (abandon_tick m) hg) (Exchange.reconcile m.abandon.letIn.1.cluster key)
  rw [begin_eq]
  simpa [stamp, letIn] using hx

theorem following_le (hd : m.tick ≤ t) : following p m.tick t ≤ t + p := by
  unfold following
  split <;> omega

theorem le_following : t + p ≤ following p m.tick t + lateness := by
  unfold following
  split <;> omega

/-- A tick is taken when it is due, and sets the next. -/
theorem Timed.ticked (hm : Timed p t m h) (ha : Ticking p m h) (hd : m.tick ≤ t) :
    Timed p t { m with tick := following m.period m.tick t } (h ++ [(t, .began .tick key)]) := by
  obtain rfl := hm.period
  have hk : History.ticks (h ++ [(t, .began .tick key)]) = h.ticks ++ [t] :=
    History.ticks_append h _
  have hs : History.synced (h ++ [(t, .began .tick key)]) = h.synced := by
    rw [History.synced_append]
    exact Option.or_none
  refine ⟨rfl, following_le hd, hm.retries, ?_, ?_, ?_, ?_⟩
  · rw [hs]
    exact hm.past
  · rw [hk, List.isChain_append]
    refine ⟨hm.spaced, List.isChain_singleton _, fun a ha b hb => ?_⟩
    have hn := hm.next a ha
    obtain rfl : t = b := by simpa using hb
    omega
  · rw [hk, List.getLast?_concat]
    rintro a ⟨⟩
    exact le_following
  · rw [hk, hs, List.head?_append]
    intro a hm'
    cases hh : h.ticks with
    | nil =>
      obtain ⟨u, hu, -, hf⟩ := ha
      obtain rfl : t = a := by simpa [hh] using hm'
      exact ⟨u, hu, Nat.le_trans (hf hh) hd⟩
    | cons b bs =>
      obtain rfl : b = a := by simpa [hh] using hm'
      exact hm.first b (by rw [hh]; rfl)

theorem Ticking.ticked (ha : Ticking p m h) (due : Nat) :
    Ticking p { m with tick := due } (h ++ [(t, .began .tick key)]) := by
  obtain ⟨u, hu, hr, -⟩ := ha
  refine ⟨u, History.synced_stays h _ hu, hr, fun hn => ?_⟩
  rw [History.ticks_append] at hn
  exact absurd hn (List.append_ne_nil_of_right_ne_nil _ nofun)

theorem tick_enabled : (m.step? t .tick).isSome ↔ m.phase = .waiting ∧ m.tick ≤ t := by
  simp only [step?]
  split
  · next hp => by_cases hd : m.tick ≤ t <;> simp [hp, hd]
  · next hp => simpa using fun hw => absurd hw hp

theorem step_paced (hm : Paced p t m h) (hx : m.step? t x = some (n, ns)) :
    Paced p t n (h ++ stamp t ns) := by
  have he : (m.step? t x).isSome := by rw [hx]; rfl
  have hx := step_cases hx
  have ho := hm.progress
  cases x with
  | start =>
    obtain ⟨hp, he⟩ := hx
    cases he
    simp only [Progress, hp] at ho
    have hg : Idle (stamp t (logs [started m.cluster])) := idle_logs _
    have hb : Idle [(t, .began .start m.watched)] := idle_began nofun
    rw [stamp_append, ← List.append_assoc]
    apply begin_paced
    · exact (hm.toTimed.idle rfl rfl (List.Subset.refl _) hg).idle rfl rfl
        (List.Subset.refl _) hb
    · exact (ho.idle hg).idle hb
  | send id e =>
    obtain rfl : _ = n := congrArg Prod.fst hx
    obtain rfl : _ = ns := congrArg Prod.snd hx
    exact send_paced hm _
  | fire id =>
    obtain ⟨r, -, -, -, he⟩ := hx
    obtain rfl : _ = n := congrArg Prod.fst he
    obtain rfl : _ = ns := congrArg Prod.snd he
    have hf := hm.idle (n := { m with retries := m.retries.filter (·.id != id) }) (g := []) rfl
      rfl List.filter_sublist.subset rfl ⟨rfl, rfl⟩
    rw [List.append_nil] at hf
    exact send_paced hf _
  | receive =>
    obtain ⟨q, ps, hp, -, he⟩ := hx
    cases he
    simp only [Progress, hp] at ho
    have hb : Idle [(t, .began (.post q) q.event.key)] := idle_began nofun
    apply begin_paced
    · exact hm.toTimed.idle rfl rfl (List.Subset.refl _) hb
    · exact ho.idle rfl hb
  | tick =>
    obtain ⟨hp, hx⟩ := hx
    cases hx
    simp only [Progress, hp] at ho
    have hd : m.tick ≤ t := (tick_enabled.mp he).2
    exact begin_paced (hm.toTimed.ticked ho hd) (ho.ticked _)
  | answer a =>
    obtain ⟨c, k, f, hp, he⟩ := hx
    obtain rfl : _ = n := congrArg Prod.fst he
    obtain rfl : _ = ns := congrArg Prod.snd he
    simp only [Progress, hp] at ho
    exact proceed_paced k hm.toTimed ho _

end Steps

section Runs

variable {cluster watched : ObjectKey} {period s : Nat}

theorem opening_paced : Paced period s (opening cluster watched period) [] where
  period := rfl
  soon := Nat.zero_le _
  retries := nofun
  past := nofun
  spaced := List.isChain_nil
  next := nofun
  first := nofun
  progress := ⟨rfl, rfl⟩

theorem Paced.later (hm : Paced p t m h) (hu : t ≤ u) : Paced p u m h := by
  have hs := hm.soon
  refine { hm with soon := ?_, retries := fun r hr => ?_, past := fun v hv => ?_ }
  · omega
  · have hd := hm.retries r hr
    omega
  · have hv := hm.past v hv
    omega

/-- The clock may show any time when the run begins. -/
theorem run_paced (hr : Run (s, opening cluster watched period) h (t, m)) :
    Paced period t m h := by
  generalize hs : (s, opening cluster watched period) = x at hr
  generalize he : (t, m) = y at hr
  induction hr generalizing t m with
  | refl =>
    cases hs
    cases he
    exact opening_paced
  | act _ hx ih =>
    cases he
    exact step_paced (ih rfl) hx
  | wait _ hu _ ih =>
    cases he
    exact (ih rfl).later hu

/-- Until something begins, a manager that waits goes on to wait for the same tick, and the clock
does not go past it. -/
theorem waiting_run (hp : m.phase = .waiting) (hr : Run (t, m) g (u, n)) (hb : g.begun = []) :
    n.phase = .waiting ∧ n.tick = m.tick ∧ (u ≤ t ∨ u ≤ m.tick) := by
  generalize hs : (t, m) = x at hr
  generalize he : (u, n) = y at hr
  induction hr generalizing u n with
  | refl =>
    cases hs
    cases he
    exact ⟨hp, rfl, .inl (Nat.le_refl _)⟩
  | @act g v o x o' ns _ hx ih =>
    cases he
    rw [History.begun_append, List.append_eq_nil_iff] at hb
    obtain ⟨ho, hk, hv⟩ := ih hb.1 rfl
    have hn := hb.2
    rw [step_begun hx] at hn
    have hx := step_cases hx
    cases x with
    | start | tick => cases hn
    | receive =>
      obtain ⟨q, ps, -, hi, -⟩ := hx
      rw [Action.cause?, hi] at hn
      cases hn
    | send id e =>
      obtain rfl : _ = o' := congrArg Prod.fst hx
      exact ⟨(send_phase _).trans ho, (send_tick _).trans hk, hv⟩
    | fire id =>
      obtain ⟨r, -, -, -, he⟩ := hx
      obtain rfl : _ = o' := congrArg Prod.fst he
      exact ⟨(send_phase _).trans ho, (send_tick _).trans hk, hv⟩
    | answer a =>
      obtain ⟨c, k, f, hf, -⟩ := hx
      cases ho.symm.trans hf
  | @wait g v o til _ _ hq ih =>
    cases he
    obtain ⟨ho, hk, -⟩ := ih hb rfl
    have hq := hq.2
    rw [ho] at hq
    exact ⟨ho, hk, .inr (hk ▸ hq.2)⟩

/-- Resyncs neither bunch up nor drift away, however long a reconciliation may take and whatever
else there is to reconcile. -/
theorem resyncs_keep_pace (hr : Run (s, opening cluster watched period) h (t, m)) :
    h.ticks.IsChain (fun a b => a + period ≤ b + 5) ∧
    (∀ a ∈ h.ticks.head?, ∃ u ∈ h.synced, u + period ≤ a) ∧
    (m.phase = .waiting → m.tick ≤ t + period ∧ ∀ v, (m.step? v .tick).isSome ↔ m.tick ≤ v) ∧
    ∀ g u n, m.phase = .waiting → Run (t, m) g (u, n) → t + period < u → g.begun ≠ [] := by
  have hm := run_paced hr
  have hs := hm.soon
  refine ⟨hm.spaced, hm.first, fun hp => ⟨hs, fun v => ?_⟩, fun g u n hp hg hu hb => ?_⟩
  · rw [tick_enabled, and_iff_right hp]
  · obtain ⟨-, -, hl⟩ := waiting_run hp hg hb
    omega

/-- The reconciliation of the first tick takes two and a half periods. The second tick is taken once
that is over, and the third is due a period after it. -/
theorem late_tick_delays_the_next : ∃ h m g n,
    Run (0, opening ⟨"prod", "fleet"⟩ ⟨"agent", "addon"⟩ 1000) h (7500, m) ∧
      h.synced = some 3000 ∧ h.ticks = [4000, 6500, 7500] ∧
      h.ticks.IsChain (fun a b => a + 1000 ≤ b + 5) ∧ m.phase = .waiting ∧ m.tick ≤ 8500 ∧
      Run (7500, m) g (8600, n) ∧ g.begun ≠ [] := by
  obtain ⟨h, ⟨t, m⟩, hr, hc⟩ := play_run
    (s := (0, opening ⟨"prod", "fleet"⟩ ⟨"agent", "addon"⟩ 1000))
    [.act .start, .wait 3000, .act (.answer (.error "refused")), .wait 4000, .act .tick,
      .wait 6500, .act (.answer (.error "refused")), .act .tick,
      .act (.answer (.error "refused")), .wait 7500, .act .tick,
      .act (.answer (.error "refused"))]
    (P := fun h s => s.1 = 7500 ∧ s.2.waits ∧ h.synced = some 3000 ∧
      h.ticks = [4000, 6500, 7500] ∧
      (play s [.wait 8500, .act .tick, .wait 8600]).any fun x => x.2.1 = 8600)
    (by decide +kernel)
  simp only [decide_eq_true_eq] at hc
  obtain ⟨rfl, hw, hs, hk, hg⟩ := hc
  obtain ⟨g, ⟨u, n⟩, hg, hu⟩ := play_run _ (P := fun _ s => s.1 = 8600) hg
  obtain rfl : u = 8600 := of_decide_eq_true hu
  have hp : m.phase = .waiting := phase_of_waits hw
  obtain ⟨hc, -, ht, hb⟩ := resyncs_keep_pace hr
  exact ⟨h, m, g, n, hr, hs, hk, hc, hp, (ht hp).1, hg, hb g _ n hp hg (by decide)⟩

end Runs

end Manager

end TokenCourier
