import TokenCourier.Proofs.Manager.Run

namespace TokenCourier

def Sender.retry? : Sender → Option Nat
  | .retry id => some id
  | .outside _ => none

def Cause.retry? : Cause → Option Nat
  | .post p => p.sender.retry?
  | _ => none

def Note.intrudes : Note → Bool
  | .accepted p => p.sender.retry?.isNone
  | _ => false

namespace Manager

variable {t u : Nat} {m n : Manager} {h g : History} {as : List Reconciliation}

/-- How many copies there are of a retry: asleep, sent and not taken, or taken. -/
def copies (m : Manager) (as : List Reconciliation) (id : Nat) : Nat :=
  m.retries.countP (·.id = id) + m.inbox.countP (·.sender.retry? == some id) +
    m.blocked.countP (·.sender.retry? == some id) + as.countP (·.cause.retry? == some id)

/-- No number is given to two retries, and no retry is in two places. -/
def Numbered (m : Manager) (as : List Reconciliation) : Prop :=
  ∀ id, m.copies as id ≤ 1 ∧ (m.spawned ≤ id → m.copies as id = 0)

theorem abandon_blocked (m : Manager) : m.abandon.blocked.Sublist m.blocked := by
  unfold abandon
  split
  · exact List.Sublist.refl _
  · exact List.filter_sublist

theorem abandon_retries (m : Manager) : m.abandon.retries.Sublist m.retries := by
  unfold abandon
  split
  · exact List.Sublist.refl _
  · exact List.filter_sublist

theorem abandon_spawned (m : Manager) : m.abandon.spawned = m.spawned := by
  unfold abandon
  split <;> rfl

theorem copies_accepted (p : Post) (id : Nat) :
    m.copies (History.ledger (h ++ [(t, .accepted p)])) id = m.copies h.ledger id := by
  cases ha : h.ledger with
  | nil =>
    have hl := History.ledger_early t ha [p]
    exact congrArg (m.copies · id) hl
  | cons a as =>
    rw [History.ledger_accepted t ha p]
    rfl

theorem causes_post (p : Post) (k : ObjectKey) (id : Nat) :
    ({ cause := .post p, key := k, start := t } :: as).countP (·.cause.retry? == some id)
      = as.countP (·.cause.retry? == some id) + if p.sender.retry? == some id then 1 else 0 :=
  List.countP_cons

theorem causes_other {a : Reconciliation} (ha : a.cause.retry? = none) (id : Nat) :
    (a :: as).countP (·.cause.retry? == some id) = as.countP (·.cause.retry? == some id) := by
  rw [List.countP_cons, ha]
  rfl

theorem fires_counts {r : Retry} {rs : List Retry} (hr : r ∈ rs) (id : Nat) :
    (rs.filter (·.id != r.id)).countP (·.id = id) +
      [r.post].countP (·.sender.retry? == some id) ≤ rs.countP (·.id = id) := by
  by_cases he : r.id = id
  · have hz : (rs.filter (·.id != r.id)).countP (·.id = id) = 0 := by
      simp [List.countP_eq_zero, he]
    have ho : 0 < rs.countP (·.id = id) := List.countP_pos_iff.mpr ⟨r, hr, by simpa using he⟩
    have hl : [r.post].countP (·.sender.retry? == some id) ≤ 1 := List.countP_le_length
    omega
  · have hz : [r.post].countP (·.sender.retry? == some id) = 0 := by
      simp [Retry.post, Sender.retry?, he]
    have hl := (List.filter_sublist (p := (·.id != r.id)) (l := rs)).countP_le
      (p := fun r => decide (r.id = id))
    omega

theorem move_numbered {s : Manager × History} (hm : Move t (m, h) s)
    (hn : Numbered m h.ledger) : Numbered s.1 s.2.ledger := by
  intro id
  have hi := hn id
  cases hm with
  | sends o e hp =>
    simpa [copies, Sender.retry?] using hi
  | fires hr hd hp =>
    have hk := fires_counts hr id
    simp only [copies, List.countP_append] at hi hk ⊢
    omega
  | expires o hp =>
    have hl := (List.filter_sublist (p := (·.id != o)) (l := m.retries)).countP_le
      (p := fun r => decide (r.id = id))
    simp only [copies] at hi hl ⊢
    omega
  | enters hb hc =>
    rename_i p ps
    rw [copies_accepted]
    simp only [copies, hb, List.countP_append, List.countP_cons, List.countP_nil] at hi ⊢
    omega
  | shows e =>
    rw [History.ledger_shown]
    exact hi
  | begins c inbox hp hb =>
    rw [History.ledger_began]
    have hl := (abandon_blocked m).countP_le (p := (·.sender.retry? == some id))
    have hr := (abandon_retries m).countP_le (p := fun r => decide (r.id = id))
    simp only [copies, abandon_spawned] at hi ⊢
    cases c with
    | post p =>
      rw [causes_post]
      simp only [hb, List.countP_cons] at hi ⊢
      omega
    | start | tick =>
      rw [causes_other rfl]
      simp only [hb] at hi
      omega
  | succeeds o ha hv =>
    rw [History.ledger_ended t ha]
    rw [ha] at hi
    exact hi
  | fails e ha hv =>
    rw [History.ledger_failed t ha]
    rw [ha] at hi
    simp only [copies, List.countP_append, List.countP_cons, List.countP_nil] at hi ⊢
    have ho : (if decide (m.spawned = id) then 1 else 0) ≤ 1 := by split <;> simp
    have hz : m.spawned ≠ id → (if decide (m.spawned = id) then 1 else 0) = 0 := by simp
    omega
  | setsPhase phase tick hp hq => exact hi
  | stops hp =>
    simp only [copies, List.countP_nil] at hi ⊢
    omega

theorem retryDelay_eq : retryDelay = 300000 := rfl

/-- What a task has sent and was not taken yet: it is in the inbox, or waits for room there. -/
def sent (m : Manager) (r : Retry) : List Post :=
  (m.inbox ++ m.blocked).filter (·.sender.retry? == some r.id)

def NoRetry (m : Manager) : Prop :=
  m.retries = [] ∧ m.pending = none ∧ ∀ p ∈ m.blocked, p.sender.retry? = none

structure Sleeps (t : Nat) (m : Manager) (r : Retry) : Prop where
  asleep : m.retries = [r]
  pending : m.pending = some r.id
  due : t ≤ r.due
  sent : m.sent r = []
  alone : ∀ p ∈ m.blocked, p.sender.retry? = none

structure Fired (t : Nat) (m : Manager) (r : Retry) : Prop where
  awake : m.retries = []
  pending : m.pending = some r.id
  due : r.due ≤ t
  sent : m.sent r = [r.post]
  alone : ∀ p ∈ m.blocked, p.sender.retry? = none ∨ p = r.post

def RetryLost (m : Manager) : Prop := m.phase = .stopped ∧ m.retries = []

def RetryKept (t : Nat) (m : Manager) (r : Retry) : Prop := Sleeps t m r ∨ Fired t m r ∨ RetryLost m

/-- The result of the latest reconciliation determines which retry there is. -/
inductive RetryStatus (t : Nat) (m : Manager) : List Reconciliation → Prop where
  | clear {as : List Reconciliation} : NoRetry m →
      (∀ a ∈ as.head?, ∀ u e, a.verdict ≠ some (u, .error e)) → RetryStatus t m as
  | failed {a as u e r} : a.verdict = some (u, .error e) → a.retry = some r → r.key = a.key →
      r.due = u + retryDelay → RetryKept t m r → RetryStatus t m (a :: as)

theorem RetryStatus.mono (hs : RetryStatus t m as) (hq : NoRetry m → NoRetry n)
    (hk : ∀ r, RetryKept t m r → RetryKept u n r) : RetryStatus u n as := by
  cases hs with
  | clear hm ha => exact .clear (hq hm) ha
  | failed hv hr hy hd hm => exact .failed hv hr hy hd (hk _ hm)

theorem RetryStatus.keep (hs : RetryStatus t m as) (hr : n.retries = m.retries)
    (hi : n.pending = m.pending) (hc : ∀ r, n.sent r = m.sent r)
    (hb : ∀ p ∈ n.blocked, p ∈ m.blocked ∨ p.sender.retry? = none)
    (hp : m.phase = .stopped → n.phase = .stopped) : RetryStatus t n as := by
  refine hs.mono (fun ⟨hr', hi', hb'⟩ => ⟨hr.trans hr', hi.trans hi', fun p hm => ?_⟩)
    fun r hk => ?_
  · exact (hb p hm).elim (hb' p) id
  · obtain ⟨hr', hi', hd, hc', hb'⟩ | ⟨hr', hi', hd, hc', hb'⟩ | ⟨hl, hr'⟩ := hk
    · refine .inl ⟨hr.trans hr', hi.trans hi', hd, (hc r).trans hc', fun p hm => ?_⟩
      exact (hb p hm).elim (hb' p) id
    · refine .inr (.inl ⟨hr.trans hr', hi.trans hi', hd, (hc r).trans hc', fun p hm => ?_⟩)
      exact (hb p hm).elim (hb' p) .inl
    · exact .inr (.inr ⟨hp hl, hr.trans hr'⟩)

theorem RetryStatus.accepted (hs : RetryStatus t m h.ledger) (p : Post) :
    RetryStatus t m (History.ledger (h ++ [(u, .accepted p)])) := by
  cases ha : h.ledger with
  | nil =>
    have hl : History.ledger (h ++ [(u, .accepted p)]) = [] := History.ledger_early u ha [p]
    rwa [hl, ← ha]
  | cons a as =>
    rw [History.ledger_accepted u ha p]
    rw [ha] at hs
    cases hs with
    | clear hm hv => exact .clear hm fun b hb => by cases hb; exact hv a rfl
    | failed hv hr hy hd hm => exact .failed hv hr hy hd hm

theorem RetryStatus.noRetry {a : Reconciliation} (hs : RetryStatus t m (a :: as))
    (hv : a.verdict = none) : NoRetry m := by
  cases hs with
  | clear hm _ => exact hm
  | failed he => cases hv.symm.trans he

theorem sent_send (r : Retry) (id : Nat) (e : SyncEvent) :
    ({ m with blocked := m.blocked ++ [⟨.outside id, e⟩] } : Manager).sent r = m.sent r := by
  simp [sent, Sender.retry?]

theorem sent_enter {p : Post} {ps : List Post} (hb : m.blocked = p :: ps) (r : Retry) :
    ({ m with inbox := m.inbox ++ [p], blocked := ps } : Manager).sent r = m.sent r := by
  simp [sent, hb]

theorem sent_fire (r : Retry) (rs : List Retry) :
    ({ m with retries := rs, blocked := m.blocked ++ [r.post] } : Manager).sent r
      = m.sent r ++ [r.post] := by
  simp [sent, Retry.post, Sender.retry?]

theorem sent_fresh (hn : Numbered m as) {r : Retry} (hr : m.spawned ≤ r.id) : m.sent r = [] := by
  have hz := (hn r.id).2 hr
  simp only [copies] at hz
  have hi : m.inbox.countP (·.sender.retry? == some r.id) = 0 := by omega
  have hb : m.blocked.countP (·.sender.retry? == some r.id) = 0 := by omega
  rw [List.countP_eq_length_filter, List.length_eq_zero_iff] at hi hb
  rw [sent, List.filter_append, hi, hb, List.append_nil]

theorem abandon_noRetry (hs : RetryStatus t m as) : m.phase ≠ .stopped → NoRetry m.abandon := by
  intro hp
  cases hs with
  | clear hq =>
    obtain ⟨hr, hi, hb⟩ := hq
    have ha : m.abandon = m := by simp [abandon, hi]
    rw [ha]
    exact ⟨hr, hi, hb⟩
  | @failed a as u e r hv hr hy hd hk =>
    obtain ⟨hs, hi, -, -, hb⟩ | ⟨hs, hi, -, -, hb⟩ | ⟨hl, -⟩ := hk
    · refine ⟨by simp [abandon, hi, hs], by simp [abandon, hi], fun p hm => ?_⟩
      exact hb p ((abandon_blocked m).subset hm)
    · refine ⟨by simp [abandon, hi, hs], by simp [abandon, hi], fun p hm => ?_⟩
      obtain hn | rfl := hb p ((abandon_blocked m).subset hm)
      · exact hn
      · simp [abandon, hi, Retry.post] at hm
    · exact absurd hl hp

theorem RetryStatus.fires {r : Retry} (hs : RetryStatus t m as) (hr : r ∈ m.retries)
    (hd : r.due ≤ t) (hp : m.phase ≠ .stopped) :
    RetryStatus t { m with
      retries := m.retries.filter (·.id != r.id)
      blocked := m.blocked ++ [r.post] } as := by
  cases hs with
  | clear hq =>
    rw [hq.1] at hr
    cases hr
  | @failed a as u e q hv hy hk hu hm =>
    obtain ⟨hs, hi, -, hc, hb⟩ | ⟨hs, -⟩ | ⟨hl, -⟩ := hm
    · rw [hs, List.mem_singleton] at hr
      subst hr
      refine .failed hv hy hk hu (.inr (.inl ⟨by simp [hs], hi, hd, ?_, ?_⟩))
      · rw [sent_fire, hc, List.nil_append]
      · exact List.forall_mem_append.mpr ⟨fun p hp => .inl (hb p hp), by simp⟩
    · rw [hs] at hr
      cases hr
    · exact absurd hl hp

theorem move_retryStatus {s : Manager × History} (hm : Move t (m, h) s) (hn : Numbered m h.ledger)
    (hs : RetryStatus t m h.ledger) : RetryStatus t s.1 s.2.ledger := by
  cases hm with
  | sends id e hp =>
    refine hs.keep rfl rfl (fun r => sent_send r id e) ?_ fun hl => absurd hl hp
    exact List.forall_mem_append.mpr ⟨fun p hm => .inl hm, by simp [Sender.retry?]⟩
  | fires hr hd hp => exact hs.fires hr hd hp
  | expires o hp =>
    refine hs.mono (fun ⟨hr, hi, hb⟩ => ⟨by simp [hr], hi, hb⟩) fun r hk => ?_
    obtain ⟨hr, hi, hd, hc, hb⟩ | ⟨hr, hi, hd, hc, hb⟩ | ⟨hl, hr⟩ := hk
    · by_cases ho : r.id = o
      · exact .inr (.inr ⟨hp, by simp [hr, ho]⟩)
      · exact .inl ⟨by simp [hr, ho], hi, hd, hc, hb⟩
    · exact .inr (.inl ⟨by simp [hr], hi, hd, hc, hb⟩)
    · exact .inr (.inr ⟨hl, by simp [hr]⟩)
  | @enters _ _ p ps hw hc =>
    refine (hs.accepted p).keep rfl rfl (sent_enter hw) (fun q hq => .inl ?_) id
    rw [hw]
    exact List.mem_cons_of_mem p hq
  | shows e =>
    rw [History.ledger_shown]
    exact hs
  | begins c inbox hp hb =>
    rw [History.ledger_began]
    -- whatever there was is given up
    exact .clear (abandon_noRetry hs hp) fun a ha => by cases ha; nofun
  | succeeds o ha hv =>
    rw [History.ledger_ended t ha]
    rw [ha] at hs
    exact .clear (hs.noRetry hv) fun a ha => by cases ha; nofun
  | fails e ha hv =>
    rw [History.ledger_failed t ha]
    rw [ha] at hs
    obtain ⟨hr, hi, hb⟩ := hs.noRetry hv
    refine .failed rfl rfl rfl rfl (.inl ⟨by simp [hr], rfl, Nat.le_add_right _ _, ?_, hb⟩)
    exact sent_fresh hn (Nat.le_refl _)
  | setsPhase phase tick hp hq =>
    exact hs.keep rfl rfl (fun _ => rfl) (fun p hm => .inl hm) fun hl => absurd hl hp
  | stops hp =>
    refine hs.mono (fun ⟨hr, hi, hb⟩ => ⟨hr, hi, nofun⟩) fun r hk => ?_
    obtain ⟨hr, hi, hd, hc, hb⟩ | ⟨hr, -⟩ | hl := hk
    · exact .inl ⟨hr, hi, hd, rfl, nofun⟩
    · exact .inr (.inr ⟨rfl, hr⟩)
    · exact absurd hl.1 hp

variable {cluster watched : ObjectKey} {period : Nat}

theorem opening_retryStatus : Numbered (opening cluster watched period) [] ∧
    RetryStatus 0 (opening cluster watched period) [] := by
  refine ⟨fun id => ⟨Nat.zero_le _, fun _ => rfl⟩, .clear ⟨rfl, rfl, ?_⟩ ?_⟩
  · intro p hp
    cases hp
  · intro a ha
    cases ha

theorem wait_retryStatus (hs : Numbered m as ∧ RetryStatus t m as) (hu : t ≤ u)
    (hq : m.IdleUntil u) : Numbered m as ∧ RetryStatus u m as := by
  refine ⟨hs.1, hs.2.mono id fun r hk => ?_⟩
  obtain ⟨hr, hi, -, hc, hb⟩ | ⟨hr, hi, hd, hc, hb⟩ | hl := hk
  · exact .inl ⟨hr, hi, hq.1 r (by rw [hr]; exact List.mem_singleton_self r), hc, hb⟩
  · exact .inr (.inl ⟨hr, hi, Nat.le_trans hd hu, hc, hb⟩)
  · exact .inr (.inr hl)

theorem run_retryStatus (hr : Run (0, opening cluster watched period) h (t, m)) :
    Numbered m h.ledger ∧ RetryStatus t m h.ledger := by
  refine run_keeps (I := fun t s => Numbered s.1 s.2.ledger ∧ RetryStatus t s.1 s.2.ledger)
    opening_retryStatus ?_ ?_ hr
  · rintro t ⟨m, h⟩ s ⟨hn, hs⟩ hm
    exact ⟨move_numbered hm hn, move_retryStatus hm hn hs⟩
  · rintro t u ⟨m, h⟩ hs hu hq
    exact wait_retryStatus hs hu hq

theorem send_open (hp : m.phase ≠ .stopped) (hb : m.blocked = [])
    (hi : m.inbox.length < capacity) (p : Post) :
    m.send p = ({ m with inbox := m.inbox ++ [p] }, [.accepted p]) := by
  have ht : [p].take (capacity - m.inbox.length) = [p] :=
    List.take_of_length_le (by rw [List.length_singleton]; omega)
  have hd : [p].drop (capacity - m.inbox.length) = [] :=
    List.drop_of_length_le (by rw [List.length_singleton]; omega)
  rw [send_running hp]
  simp [letIn, hb, ht, hd]

/-- The manager waits, and nothing is ahead of it but a retry, or what the retry has sent. -/
structure AwaitsRetry (m : Manager) (r : Retry) (asleep : List Retry) (inbox : List Post) :
    Prop where
  waiting : m.phase = .waiting
  inbox : m.inbox = inbox
  blocked : m.blocked = []
  retries : m.retries = asleep
  tick : r.due < m.tick

theorem begun_begin (c : Cause) (k : ObjectKey) :
    ∃ bs, History.begun (stamp t (m.begin t c k).2) = (t, c, k) :: bs := ⟨_, rfl⟩

def Undisturbed (h : History) (due : Nat) : Prop := ∀ x ∈ h, x.1 ≤ due → x.2.intrudes = false

variable {r : Retry} {x : Action} {ns : List Note}

theorem send_disturbs {id due : Nat} {e : SyncEvent} (hp : m.phase ≠ .stopped)
    (hb : m.blocked = []) (hi : m.inbox.length < capacity) (ht : t ≤ due)
    (hx : m.step? t (.send id e) = some (n, ns)) : ¬ Undisturbed (stamp t ns) due := by
  intro hu
  have hs := send_open hp hb hi ⟨.outside id, e⟩
  have he : m.send ⟨.outside id, e⟩ = (n, ns) := Option.some.inj hx
  cases he.symm.trans hs
  cases hu (t, .accepted ⟨.outside id, e⟩) (by simp [stamp]) ht

theorem sleeping_retry_step (hl : AwaitsRetry m r [r] []) (ht : t ≤ r.due)
    (hx : m.step? t x = some (n, ns)) (hu : Undisturbed (stamp t ns) r.due) :
    History.begun (stamp t ns) = [] ∧ t = r.due ∧ AwaitsRetry n r [] [r.post] := by
  obtain ⟨hw, hi, hb, hr, hk⟩ := hl
  have hp : m.phase ≠ .stopped := by simp [hw]
  have hc : m.inbox.length < capacity := by simp [hi, capacity]
  cases x with
  | start | answer a => simp [step?, hw] at hx
  | send id e => exact absurd hu (send_disturbs hp hb hc ht hx)
  | fire id =>
    simp only [step?, hr] at hx
    by_cases hid : r.id = id
    · have hd : r.due ≤ t := by
        by_contra hd
        simp [hid, hd] at hx
      have hs := send_open (m := { m with retries := [] }) hp hb hc r.post
      have he : ({ m with retries := [] } : Manager).send r.post = (n, ns) := by
        simpa [hid, hd] using hx
      cases he.symm.trans hs
      exact ⟨rfl, by omega, hw, by simp [hi], hb, rfl, hk⟩
    · simp [hid] at hx
  | receive => simp [step?, hw, hi] at hx
  | tick =>
    have hn : ¬ m.tick ≤ t := by omega
    simp [step?, hw, hn] at hx

theorem fired_retry_step (hf : AwaitsRetry m r [] [r.post]) (hx : m.step? r.due x = some (n, ns))
    (hu : Undisturbed (stamp r.due ns) r.due) :
    ∃ bs, History.begun (stamp r.due ns) = (r.due, .post r.post, r.key) :: bs := by
  obtain ⟨hw, hi, hb, hr, hk⟩ := hf
  have hp : m.phase ≠ .stopped := by simp [hw]
  have hc : m.inbox.length < capacity := by simp [hi, capacity]
  cases x with
  | start | answer a => simp [step?, hw] at hx
  | send id e => exact absurd hu (send_disturbs hp hb hc (Nat.le_refl _) hx)
  | fire id => simp [step?, hr] at hx
  | receive =>
    simp only [step?, hw, hi, Option.some.injEq] at hx
    obtain rfl : _ = ns := congrArg Prod.snd hx
    exact begun_begin (.post r.post) r.key
  | tick =>
    have hn : ¬ m.tick ≤ r.due := by omega
    simp [step?, hw, hn] at hx

/-- Undisturbed, the task is what begins the next reconciliation, at the time it is due. -/
theorem awaited_retry_run (hl : AwaitsRetry m r [r] []) (ht : t ≤ r.due)
    (hr : Run (t, m) h (u, n)) (hu : Undisturbed h r.due) :
    (h.begun = [] ∧ u ≤ r.due ∧
        (AwaitsRetry n r [r] [] ∨ u = r.due ∧ AwaitsRetry n r [] [r.post])) ∨
      ∃ bs, h.begun = (r.due, .post r.post, r.key) :: bs := by
  generalize hs : (t, m) = s at hr
  generalize he : (u, n) = s' at hr
  induction hr generalizing u n with
  | refl =>
    cases hs
    cases he
    exact .inl ⟨rfl, ht, .inl hl⟩
  | @act h u o x o' ns _ hx ih =>
    cases he
    have hu' : Undisturbed (stamp u ns) r.due := fun x hm => hu x (List.mem_append_right _ hm)
    rcases ih (fun x hm => hu x (List.mem_append_left _ hm)) rfl with
      ⟨hb, hv, ho | ⟨rfl, ho⟩⟩ | ⟨bs, hb⟩
    · obtain ⟨hn, rfl, hw⟩ := sleeping_retry_step ho hv hx hu'
      exact .inl ⟨by rw [History.begun_append, hb, hn]; rfl, Nat.le_refl _, .inr ⟨rfl, hw⟩⟩
    · obtain ⟨bs, hn⟩ := fired_retry_step ho hx hu'
      exact .inr ⟨bs, by rw [History.begun_append, hb, hn]; rfl⟩
    · exact .inr ⟨_, by rw [History.begun_append, hb]; rfl⟩
  | @wait h u o til _ hl hq ih =>
    cases he
    obtain ⟨hb, hv, ho | ⟨rfl, ho⟩⟩ | hb := ih hu rfl
    · exact .inl ⟨hb, hq.1 r (by rw [ho.retries]; exact List.mem_singleton_self r), .inl ho⟩
    · have hi := hq.2
      rw [ho.waiting] at hi
      simp [ho.inbox] at hi
    · exact .inr hb

theorem RetryStatus.length_le_one (hs : RetryStatus t m as) : m.retries.length ≤ 1 := by
  cases hs with
  | clear hq => simp [hq.1]
  | failed hv hr hy hd hk =>
    rcases hk with ⟨hr, -⟩ | ⟨hr, -⟩ | ⟨-, hr⟩ <;> simp [hr]

theorem RetryStatus.of_inProgress {c : Cause} {k : ObjectKey} (hs : RetryStatus t m h.ledger)
    (hu : InProgress h c k as) : m.retries = [] := by
  obtain ⟨a, ha, -, -, hv⟩ := hu
  rw [ha] at hs
  exact (hs.noRetry hv).1

theorem RetryStatus.of_failed {a : Reconciliation} {e : SyncError} (hs : RetryStatus t m (a :: as))
    (hp : m.phase ≠ .stopped) (hv : a.verdict = some (u, .error e)) :
    ∃ r, r.key = a.key ∧ r.due = u + 300000 ∧ (Sleeps t m r ∨ Fired t m r) := by
  cases hs with
  | clear _ hn => exact absurd hv (hn a rfl u e)
  | failed hw hr hy hd hk =>
    cases hw.symm.trans hv
    rw [retryDelay_eq] at hd
    obtain hs | hf | hl := hk
    · exact ⟨_, hy, hd, .inl hs⟩
    · exact ⟨_, hy, hd, .inr hf⟩
    · exact absurd hl.1 hp

theorem RetryStatus.of_done {a : Reconciliation} {o : Outcome} (hs : RetryStatus t m (a :: as))
    (hv : a.verdict = some (u, .ok o)) : m.retries = [] := by
  cases hs with
  | clear hq => exact hq.1
  | failed hw => cases hw.symm.trans hv

theorem Fired.held_or_full {r : Retry} (hf : Fired t m r) (hc : Coherent m h) :
    r.post ∈ m.inbox ∨ m.inbox.length = capacity := by
  by_cases hb : m.blocked = []
  · have hm : r.post ∈ m.sent r := by simp [hf.sent]
    rw [Manager.sent, hb, List.append_nil] at hm
    exact .inl (List.mem_filter.mp hm).1
  · exact .inr (hc.full hb)

theorem RetryStatus.retried {a : Reconciliation} {e : SyncError} (hs : RetryStatus t m (a :: as))
    (hc : Coherent m h) (hp : m.phase = .waiting) (hv : a.verdict = some (t, .error e))
    (hi : m.inbox = []) (ht : t + 300000 < m.tick) (hg : Run (t, m) g (u, n))
    (hu : Undisturbed g (t + 300000)) :
    (∀ b bs, g.begun = b :: bs →
      ∃ p, b = (t + 300000, .post p, a.key) ∧ p.event = ⟨a.key, .retry⟩) ∧
    (t + 300000 < u → g.begun ≠ []) := by
  have hb : m.blocked = [] := by
    by_contra hb
    have hl := hc.full hb
    simp [hi, capacity] at hl
  obtain ⟨r, hk, hd, hr⟩ := hs.of_failed (by simp [hp]) hv
  have hl : t < r.due := by omega
  have hr : m.retries = [r] := by
    obtain hs | hf := hr
    · exact hs.asleep
    · have := hf.due
      omega
  rw [← hd] at ht hu ⊢
  obtain ⟨hn, hle, -⟩ | ⟨bs, hn⟩ := awaited_retry_run ⟨hp, hi, hb, hr, ht⟩ hl.le hg hu
  · rw [hn]
    exact ⟨nofun, fun h => absurd h (Nat.not_lt.mpr hle)⟩
  · rw [hn]
    refine ⟨fun b bs hb => ?_, fun _ => by simp⟩
    cases hb
    exact ⟨r.post, by rw [hk], by rw [Retry.post, hk]⟩

/-- No failure is forgotten and no retry is left over. The retry of a failure sleeps until five
minutes after it, or has sent its one event, which waits to be received; it is what begins the next
reconciliation, then, if nothing else does until then. -/
theorem failure_leaves_one_retry (hr : Run (0, opening cluster watched period) h (t, m)) :
    m.retries.length ≤ 1 ∧
    (∀ c k next, m.phase = .reconciling c k next → m.retries = []) ∧
    (m.phase = .waiting → ∃ a as u v, h.ledger = a :: as ∧ a.verdict = some (u, v) ∧
      (∀ o, v = .ok o → m.retries = []) ∧
      ∀ e, v = .error e → ∃ r : Retry, r.key = a.key ∧ r.due = u + 300000 ∧
        (m.retries = [r] ∧ t ≤ r.due ∧ m.sent r = [] ∨
          m.retries = [] ∧ r.due ≤ t ∧ m.sent r = [r.post] ∧
            (r.post ∈ m.inbox ∨ m.inbox.length = capacity))) ∧
    ∀ a as e g u n, m.phase = .waiting → h.ledger = a :: as → a.verdict = some (t, .error e) →
      m.inbox = [] → t + 300000 < m.tick → Run (t, m) g (u, n) → Undisturbed g (t + 300000) →
        (∀ b bs, g.begun = b :: bs →
          ∃ p, b = (t + 300000, .post p, a.key) ∧ p.event = ⟨a.key, .retry⟩) ∧
        (t + 300000 < u → g.begun ≠ []) := by
  obtain ⟨hn, hs⟩ := run_retryStatus hr
  have hc := run_coherent hr
  refine ⟨hs.length_le_one, fun c k next hp => ?_, fun hp => ?_, ?_⟩
  · obtain ⟨as, hu⟩ := hc.running c k next hp
    exact hs.of_inProgress hu
  · obtain ⟨c, as, v, a, u, ha, -, hv⟩ := hc.waiting hp
    rw [ha] at hs
    refine ⟨a, as, u, v, ha, hv, fun o ho => ?_, fun e he => ?_⟩
    · subst ho
      exact hs.of_done hv
    · subst he
      obtain ⟨r, hk, hd, hs | hf⟩ := hs.of_failed (by simp [hp]) hv
      · exact ⟨r, hk, hd, .inl ⟨hs.asleep, hs.due, hs.sent⟩⟩
      · exact ⟨r, hk, hd, .inr ⟨hf.awake, hf.due, hf.sent, hf.held_or_full hc⟩⟩
  · intro a as e g u n hp ha hv hi ht hg hu
    rw [ha] at hs
    exact hs.retried hc hp hv hi ht hg hu

instance (h : History) (due : Nat) : Decidable (Undisturbed h due) :=
  inferInstanceAs (Decidable (∀ x ∈ h, x.1 ≤ due → x.2.intrudes = false))

theorem refused_read_leaves_one_retry :
    ∃ h m, Run (0, opening ⟨"prod", "fleet"⟩ ⟨"agent", "addon"⟩ 3600000) h (0, m) ∧
      m.phase = .waiting ∧ m.retries.length ≤ 1 ∧
      ∃ g n, Run (0, m) g (300000, n) ∧ Undisturbed g 300000 ∧ ∃ b bs p, g.begun = b :: bs ∧
        b = (300000, .post p, ⟨"agent", "addon"⟩) ∧ p.event = ⟨⟨"agent", "addon"⟩, .retry⟩ := by
  obtain ⟨h, ⟨t, m⟩, hr, hc⟩ := play_run
    (s := (0, opening ⟨"prod", "fleet"⟩ ⟨"agent", "addon"⟩ 3600000))
    [.act .start, .act (.answer (.error "refused"))]
    (P := fun h s => s.1 = 0 ∧ s.2.waits ∧ s.2.inbox = [] ∧ 300000 < s.2.tick ∧
      h.ledger.map (·.key) = [⟨"agent", "addon"⟩] ∧
      h.ledger.map (·.verdict) = [some (0, .error (.client (.transport "refused")))] ∧
      (play s [.wait 300000, .act (.fire 0), .act .receive]).any fun x =>
        x.2.1 = 300000 ∧ Undisturbed x.1 300000 ∧ x.1.begun ≠ [])
    (by decide +kernel)
  simp only [decide_eq_true_eq] at hc
  obtain ⟨rfl, hw, hi, ht, hk, hv, hg⟩ := hc
  obtain ⟨a, ha, hk⟩ : ∃ a, h.ledger = [a] ∧ a.key = ⟨"agent", "addon"⟩ := by
    simpa [List.map_eq_singleton_iff] using hk
  have hv : a.verdict = some (0, .error (.client (.transport "refused"))) := by simpa [ha] using hv
  obtain ⟨g, ⟨u, n⟩, hg, hq⟩ := play_run _
    (P := fun g s => s.1 = 300000 ∧ Undisturbed g 300000 ∧ g.begun ≠ []) hg
  simp only [decide_eq_true_eq] at hq
  obtain ⟨rfl, hu, hb⟩ := hq
  obtain ⟨ho, -, -, hn⟩ := failure_leaves_one_retry hr
  obtain ⟨b, bs, hb⟩ := List.exists_cons_of_ne_nil hb
  obtain ⟨p, rfl, hp⟩ := (hn a [] _ g _ n (phase_of_waits hw) ha hv hi ht hg hu).1 b bs hb
  rw [hk] at hp
  exact ⟨h, m, hr, phase_of_waits hw, ho, g, n, hg, hu, _, bs, p, hb, by rw [hk], hp⟩

/-- The first read is refused, and when its retry is due others have just sent as many events as
there is room for. -/
def refusedThenFull : List Turn :=
  [.act .start, .act (.answer (.error "refused")), .wait 300000] ++
    List.replicate capacity (.act (.send 0 ⟨⟨"other", "addon"⟩, .applied⟩)) ++ [.act (.fire 0)]

def refusedRetry : Retry := ⟨0, ⟨"agent", "addon"⟩, 300000⟩

/-- A retry that finds the inbox full sleeps no more, and yet its event has not come in. -/
theorem full_inbox_keeps_retry_out :
    ∃ h m a e, Run (0, opening ⟨"prod", "fleet"⟩ ⟨"agent", "addon"⟩ 300000) h (300000, m) ∧
      m.phase = .waiting ∧ h.ledger = [a] ∧ a.verdict = some (0, .error e) ∧ m.retries = [] ∧
      (∀ p ∈ m.inbox, p.event ≠ ⟨a.key, .retry⟩) ∧ m.blocked = [refusedRetry.post] := by
  obtain ⟨h, ⟨t, m⟩, hr, hc⟩ := play_run refusedThenFull
    (s := (0, opening ⟨"prod", "fleet"⟩ ⟨"agent", "addon"⟩ 300000))
    (P := fun h s => s.1 = 300000 ∧ s.2.waits ∧ s.2.retries = [] ∧
      (∀ p ∈ s.2.inbox, p.event ≠ ⟨⟨"agent", "addon"⟩, .retry⟩) ∧
      s.2.blocked = [refusedRetry.post] ∧ h.ledger.map (fun a => (a.key, a.verdict)) =
        [(⟨"agent", "addon"⟩, some (0, .error (.client (.transport "refused"))))])
    (by decide +kernel)
  simp only [decide_eq_true_eq] at hc
  obtain ⟨rfl, hw, hs, hi, hb, hl⟩ := hc
  obtain ⟨a, ha, he⟩ := List.map_eq_singleton_iff.mp hl
  obtain ⟨hk, hv⟩ := Prod.mk.inj he
  exact ⟨h, m, a, _, hr, phase_of_waits hw, ha, hv, hs, by rwa [hk], hb⟩

end Manager

end TokenCourier
