import TokenCourier.Proofs.Manager.RunLog
import TokenCourier.Proofs.Manager.Retry

namespace TokenCourier

namespace Cause

def post? : Cause → Option Post
  | .post p => some p
  | _ => none

def key (watched : ObjectKey) : Cause → ObjectKey
  | .post p => p.event.key
  | _ => watched

def action : Cause → Manager.Action
  | .start => .start
  | .post _ => .receive
  | .tick => .tick

end Cause

namespace History

def accepted (h : History) : List Post :=
  h.filterMap fun
    | (_, .accepted p) => some p
    | _ => none

/-- The events that have been reconciled, or are being. -/
def taken (h : History) : List Post := h.begun.filterMap (·.2.1.post?)

variable (h g : History) (t : Nat)

theorem accepted_append : (h ++ g).accepted = h.accepted ++ g.accepted := List.filterMap_append

theorem taken_append : (h ++ g).taken = h.taken ++ g.taken := by
  rw [taken, begun_append, List.filterMap_append, taken, taken]

theorem accepted_began (c : Cause) (k : ObjectKey) :
    accepted (h ++ [(t, .began c k)]) = h.accepted :=
  (accepted_append h _).trans (List.append_nil _)

theorem taken_began (c : Cause) (k : ObjectKey) :
    taken (h ++ [(t, .began c k)]) = h.taken ++ c.post?.toList := by
  rw [taken_append]
  cases c <;> rfl

theorem accepted_came (ps : List Post) :
    History.accepted ((ps.map Note.accepted).map (t, ·)) = ps := by
  simp [accepted, Function.comp_def]

theorem begun_came (ps : List Post) :
    History.begun ((ps.map Note.accepted).map (t, ·)) = [] := by
  simp [begun]

end History

def Post.outside (p : Post) : Bool := p.sender.retry?.isNone

def Note.inner : Note → Bool
  | .accepted _ | .began .. => false
  | _ => true

namespace Manager

namespace Action

def post? : Action → Option Post
  | .send id e => some ⟨.outside id, e⟩
  | _ => none

def begins : Action → Bool
  | .start | .receive | .tick => true
  | _ => false

def cause? (m : Manager) : Action → Option Cause
  | .start => some .start
  | .receive => m.inbox.head?.map .post
  | .tick => some .tick
  | _ => none

end Action

/-- A run together with the actions that were taken in it. -/
inductive Acts (s : Nat × Manager) : List Action → History → Nat × Manager → Prop where
  | refl : Acts s [] [] s
  | act {xs h t m x m' ns} : Acts s xs h (t, m) → m.step? t x = some (m', ns) →
      Acts s (xs ++ [x]) (h ++ stamp t ns) (t, m')
  | wait {xs h t m til} : Acts s xs h (t, m) → t ≤ til → m.IdleUntil til → Acts s xs h (til, m)

variable {t : Nat} {m n : Manager} {h : History} {cause : Cause} {key : ObjectKey}
  {ns : List Note} {x : Action} {xs : List Action} {s s' : Nat × Manager}

theorem Acts.run (hr : Acts s xs h s') : Run s h s' := by
  induction hr with
  | refl => exact .refl
  | act _ hx ih => exact ih.act hx
  | wait _ ht hq ih => exact ih.wait ht hq

theorem acts_of_run (hr : Run s h s') : ∃ xs, Acts s xs h s' := by
  induction hr with
  | refl => exact ⟨[], .refl⟩
  | act _ hx ih =>
    obtain ⟨xs, ha⟩ := ih
    exact ⟨_, ha.act hx⟩
  | wait _ ht hq ih =>
    obtain ⟨xs, ha⟩ := ih
    exact ⟨xs, ha.wait ht hq⟩

section Inner

theorem inner_logs (ls : List LogLine) : (logs ls).all Note.inner = true := by
  simp [logs, Note.inner]

theorem inner_finish (r : Except SyncError Outcome) :
    (m.finish t cause key r).2.all Note.inner = true := by
  have hc : (m.conclude t key r).2.all Note.inner = true := by
    cases r <;> simp [conclude, logs, Note.inner]
  unfold finish
  cases cause with
  | post p | tick => exact hc
  | start =>
    simp only [listen]
    split
    · simp [hc, inner_logs]
    · simp [hc, inner_logs, stop]

theorem inner_proceed (x : Exchange (Except SyncError Outcome)) :
    (m.proceed t cause key x).2.all Note.inner = true := by
  unfold proceed
  split
  · simp [inner_logs, Note.inner]
  · simp [inner_logs, inner_finish]

theorem accepted_inner (hn : ns.all Note.inner = true) :
    History.accepted (stamp t ns) = [] ∧ History.begun (stamp t ns) = [] := by
  induction ns with
  | nil => exact ⟨rfl, rfl⟩
  | cons n ns ih =>
    obtain ⟨hi, hn⟩ := Bool.and_eq_true_iff.mp (List.all_cons ▸ hn)
    obtain ⟨ha, hb⟩ := ih hn
    cases n with
    | accepted | began => cases hi
    | shown | ended | armed => exact ⟨ha, hb⟩

end Inner

section Begin

theorem begin_begun : History.begun (stamp t (m.begin t cause key).2) = [(t, cause, key)] := by
  have hc := History.begun_came t (m.abandon.blocked.take (capacity - m.abandon.inbox.length))
  rw [begin_eq, stamp_append, History.begun_append, (accepted_inner (inner_proceed _)).2,
    List.append_nil]
  exact congrArg (_ :: ·) hc

theorem begin_accepted : History.accepted (stamp t (m.begin t cause key).2)
    = m.abandon.blocked.take (capacity - m.abandon.inbox.length) := by
  rw [begin_eq, stamp_append, History.accepted_append, (accepted_inner (inner_proceed _)).1,
    List.append_nil]
  exact History.accepted_came t _

theorem proceed_queue (x : Exchange (Except SyncError Outcome)) :
    SameQueue m (m.proceed t cause key x).1 := by
  unfold proceed
  split
  · exact .inl ⟨rfl, rfl⟩
  · exact finish_queue _

theorem proceed_phase (x : Exchange (Except SyncError Outcome)) :
    (m.proceed t cause key x).1.phase ≠ .fresh := by
  unfold proceed
  split
  · nofun
  · next lines r _ =>
    have hp : (m.finish t cause key r).1.phase = .waiting ∨
        cause = .start ∧ (m.finish t cause key r).1.phase = .stopped := finish_phase r
    obtain hp | ⟨-, hp⟩ := hp <;> simp [hp]

end Begin

section Send

theorem send_begun (p : Post) : History.begun (stamp t (m.send p).2) = [] := by
  by_cases hp : m.phase = .stopped
  · rw [send_stopped hp]
    rfl
  · rw [send_running hp]
    exact History.begun_came t _

theorem send_phase (p : Post) : (m.send p).1.phase = m.phase := by
  by_cases hp : m.phase = .stopped
  · rw [send_stopped hp]
  · rw [send_running hp]
    rfl

theorem send_accepted (hp : m.phase ≠ .stopped) (p : Post) :
    History.accepted (stamp t (m.send p).2) ++ (m.send p).1.blocked = m.blocked ++ [p] := by
  rw [send_running hp]
  have hc := History.accepted_came t ((m.blocked ++ [p]).take (capacity - m.inbox.length))
  exact (congrArg (· ++ _) hc).trans (List.take_append_drop _ _)

end Send

theorem begin_phase : (m.begin t cause key).1.phase ≠ .fresh := proceed_phase _

theorem step_begun (hx : m.step? t x = some (n, ns)) : History.begun (stamp t ns)
    = ((x.cause? m).map fun c => (t, c, c.key m.watched)).toList := by
  have hx := step_cases hx
  cases x with
  | start =>
    obtain ⟨-, he⟩ := hx
    obtain rfl : _ = ns := congrArg Prod.snd he
    exact begin_begun
  | send id e =>
    obtain rfl : _ = ns := congrArg Prod.snd hx
    exact send_begun _
  | fire id =>
    obtain ⟨r, -, -, -, he⟩ := hx
    obtain rfl : _ = ns := congrArg Prod.snd he
    exact send_begun _
  | receive =>
    obtain ⟨p, ps, -, hi, he⟩ := hx
    obtain rfl : _ = ns := congrArg Prod.snd he
    rw [begin_begun, Action.cause?, hi]
    rfl
  | tick =>
    obtain ⟨-, he⟩ := hx
    obtain rfl : _ = ns := congrArg Prod.snd he
    exact begin_begun
  | answer a =>
    obtain ⟨c, k, next, -, he⟩ := hx
    obtain rfl : _ = ns := congrArg Prod.snd he
    exact (accepted_inner (inner_proceed _)).2

/-- Exactly the actions that begin a reconciliation have a cause. -/
theorem step_cause (hx : m.step? t x = some (n, ns)) :
    (x.cause? m).toList.map Cause.action = [x].filter Action.begins := by
  have hx := step_cases hx
  cases x with
  | receive =>
    obtain ⟨p, ps, -, hi, -⟩ := hx
    rw [Action.cause?, hi]
    rfl
  | _ => rfl

theorem step_start (hx : m.step? t x = some (n, ns)) (hc : x.cause? m = some cause) :
    cause = .start ↔ m.phase = .fresh := by
  have hx := step_cases hx
  cases x with
  | start =>
    cases hc
    simp [hx.1]
  | receive =>
    obtain ⟨p, ps, hp, hi, -⟩ := hx
    simp only [Action.cause?, hi, List.head?_cons, Option.map_some, Option.some.injEq] at hc
    simp [← hc, hp]
  | tick =>
    cases hc
    simp [hx.1]
  | send | fire | answer => cases hc

theorem step_phase (hx : m.step? t x = some (n, ns)) :
    n.phase = .fresh ↔ m.phase = .fresh ∧ x.cause? m = none := by
  have hx := step_cases hx
  cases x with
  | start =>
    obtain ⟨-, he⟩ := hx
    obtain rfl : _ = n := congrArg Prod.fst he
    simpa [Action.cause?, start] using begin_phase
  | send id e =>
    obtain rfl : _ = n := congrArg Prod.fst hx
    simp [send_phase, Action.cause?]
  | fire id =>
    obtain ⟨r, -, -, -, he⟩ := hx
    obtain rfl : _ = n := congrArg Prod.fst he
    simp [send_phase, Action.cause?]
  | receive =>
    obtain ⟨p, ps, hp, -, he⟩ := hx
    obtain rfl : _ = n := congrArg Prod.fst he
    simpa [hp] using begin_phase
  | tick =>
    obtain ⟨hp, he⟩ := hx
    obtain rfl : _ = n := congrArg Prod.fst he
    simpa [hp] using begin_phase
  | answer a =>
    obtain ⟨c, k, next, hp, he⟩ := hx
    obtain rfl : _ = n := congrArg Prod.fst he
    simpa [hp] using proceed_phase _

theorem begin_blocked (hp : (m.begin t cause key).1.phase ≠ .stopped) :
    History.accepted (stamp t (m.begin t cause key).2) ++ (m.begin t cause key).1.blocked
      = m.abandon.blocked := by
  have hq : SameQueue m.abandon.letIn.1 (m.begin t cause key).1 := proceed_queue _
  obtain ⟨-, hb⟩ | ⟨hs, -⟩ := hq
  · rw [begin_accepted]
    exact (congrArg _ hb).trans (List.take_append_drop _ _)
  · exact absurd hs hp

theorem abandon_ticked (m : Manager) (due : Nat) :
    ({ m with tick := due } : Manager).abandon = { m.abandon with tick := due } := by
  cases hp : m.pending <;> simp [abandon, hp]

theorem abandon_outside (m : Manager) :
    m.abandon.blocked.filter Post.outside = m.blocked.filter Post.outside := by
  unfold abandon
  split
  · rfl
  · next id _ =>
    rw [List.filter_filter]
    refine List.filter_congr fun p _ => ?_
    obtain ⟨s, e⟩ := p
    cases s <;> simp [Post.outside, Sender.retry?]

theorem abandon_drops {p : Post} (hp : p ∈ m.blocked) :
    p ∈ m.abandon.blocked ∨ ∃ id, m.pending = some id ∧ p.sender = .retry id := by
  unfold abandon
  split
  · exact .inl hp
  · next id hid =>
    by_cases hs : p.sender = .retry id
    · exact .inr ⟨id, hid, hs⟩
    · exact .inl (List.mem_filter.mpr ⟨hp, by simpa using hs⟩)

/-- After a step, whoever waited has come in or waits on, unless his event is given up. -/
theorem step_queue (hx : m.step? t x = some (n, ns)) (hp : n.phase ≠ .stopped) :
    ∃ ps, History.accepted (stamp t ns) ++ n.blocked
        = (if x.begins then m.abandon.blocked else m.blocked) ++ ps ∧
      ps.filter Post.outside = x.post?.toList ∧ (x.begins → ps = []) := by
  have hx := step_cases hx
  cases x with
  | start =>
    obtain ⟨-, he⟩ := hx
    obtain rfl : _ = n := congrArg Prod.fst he
    obtain rfl : _ = ns := congrArg Prod.snd he
    exact ⟨[], (begin_blocked hp).trans (List.append_nil _).symm, rfl, fun _ => rfl⟩
  | send id e =>
    obtain rfl : _ = n := congrArg Prod.fst hx
    obtain rfl : _ = ns := congrArg Prod.snd hx
    exact ⟨[_], send_accepted (by rwa [send_phase] at hp) _, rfl, nofun⟩
  | fire id =>
    obtain ⟨r, -, -, -, he⟩ := hx
    obtain rfl : _ = n := congrArg Prod.fst he
    obtain rfl : _ = ns := congrArg Prod.snd he
    exact ⟨[_], send_accepted (by rwa [send_phase] at hp) _, rfl, nofun⟩
  | receive =>
    obtain ⟨p, ps, -, -, he⟩ := hx
    obtain rfl : _ = n := congrArg Prod.fst he
    obtain rfl : _ = ns := congrArg Prod.snd he
    refine ⟨[], (begin_blocked hp).trans ?_, rfl, fun _ => rfl⟩
    simp [abandon_taken, Action.begins]
  | tick =>
    obtain ⟨-, he⟩ := hx
    obtain rfl : _ = n := congrArg Prod.fst he
    obtain rfl : _ = ns := congrArg Prod.snd he
    refine ⟨[], (begin_blocked hp).trans ?_, rfl, fun _ => rfl⟩
    simp [abandon_ticked, Action.begins]
  | answer a =>
    obtain ⟨c, k, next, -, he⟩ := hx
    obtain rfl : _ = n := congrArg Prod.fst he
    obtain rfl : _ = ns := congrArg Prod.snd he
    have hq : SameQueue m (m.proceed t c k (next a)).1 := proceed_queue _
    obtain ⟨-, hb⟩ | ⟨hs, -⟩ := hq
    · refine ⟨[], ?_, rfl, nofun⟩
      rw [(accepted_inner (inner_proceed _)).1, hb]
      simp [Action.begins]
    · exact absurd hs hp

theorem step_waits {p : Post} (hx : m.step? t x = some (n, ns)) (hp : n.phase ≠ .stopped)
    (hb : p ∈ m.blocked) : p ∈ n.blocked ∨ p ∈ History.accepted (stamp t ns) ∨
      x.begins ∧ ∃ id, m.pending = some id ∧ p.sender = .retry id := by
  obtain ⟨ps, hq, -, -⟩ := step_queue hx hp
  have hk : p ∈ (if x.begins then m.abandon.blocked else m.blocked) ∨
      x.begins ∧ ∃ id, m.pending = some id ∧ p.sender = .retry id := by
    split
    · next hx => exact (abandon_drops hb).imp_right fun h => ⟨hx, h⟩
    · exact .inl hb
  obtain hk | hk := hk
  · have hm := List.mem_append_left ps hk
    rw [← hq, List.mem_append] at hm
    exact hm.elim (fun h => .inr (.inl h)) .inl
  · exact .inr (.inr hk)

theorem abandon_gives_up {p : Post} {id : Nat} (hi : m.pending = some id)
    (hp : p.sender = .retry id) : p ∉ m.abandon.blocked := by
  simp [abandon, hi, hp]

theorem step_gives_up {p : Post} {id : Nat} (hx : m.step? t x = some (n, ns))
    (hn : n.phase ≠ .stopped) (hb : x.begins) (hi : m.pending = some id)
    (hp : p.sender = .retry id) : p ∉ n.blocked ∧ p ∉ History.accepted (stamp t ns) := by
  obtain ⟨ps, hq, -, hps⟩ := step_queue hx hn
  rw [if_pos hb, hps hb, List.append_nil] at hq
  have hm : p ∉ History.accepted (stamp t ns) ++ n.blocked := hq ▸ abandon_gives_up hi hp
  rw [List.mem_append, not_or] at hm
  exact hm.symm

theorem step_outside (hx : m.step? t x = some (n, ns)) (hp : n.phase ≠ .stopped) :
    (History.accepted (stamp t ns) ++ n.blocked).filter Post.outside
      = m.blocked.filter Post.outside ++ x.post?.toList := by
  obtain ⟨ps, hq, hps, -⟩ := step_queue hx hp
  rw [hq, List.filter_append, hps]
  split
  · rw [abandon_outside]
  · rfl

theorem step_running (hx : m.step? t x = some (n, ns)) (hp : n.phase ≠ .stopped) :
    m.phase ≠ .stopped := by
  intro hm
  have hs := step_cases hx
  cases x with
  | start => simp [hm] at hs
  | send id e =>
    obtain rfl : _ = n := congrArg Prod.fst hs
    exact hp ((send_phase _).trans hm)
  | fire id =>
    obtain ⟨r, -, -, -, he⟩ := hs
    obtain rfl : _ = n := congrArg Prod.fst he
    exact hp ((send_phase _).trans hm)
  | receive | tick | answer a => simp [hm] at hs

section Runs

variable {cluster watched : ObjectKey} {period : Nat}

theorem run_queue (hr : Run (0, opening cluster watched period) h (t, m)) :
    (m.phase ≠ .stopped → h.accepted = h.taken ++ m.inbox) ∧
      (m.phase = .stopped → h.taken <+: h.accepted ∧ m.blocked = []) := by
  refine run_keeps (I := fun _ s => (s.1.phase ≠ .stopped → s.2.accepted = s.2.taken ++ s.1.inbox)
    ∧ (s.1.phase = .stopped → s.2.taken <+: s.2.accepted ∧ s.1.blocked = []))
    ⟨fun _ => rfl, nofun⟩ ?_ (fun _ _ _ hi _ _ => hi) hr
  rintro t ⟨m, h⟩ s ⟨hq, hs⟩ hm
  have hn : ∀ g : History, g.accepted = [] → g.taken = [] →
      (h ++ g).accepted = h.accepted ∧ (h ++ g).taken = h.taken := fun g ha ht => by
    simp [History.accepted_append, History.taken_append, ha, ht]
  cases hm with
  | sends id e hp => exact ⟨hq, fun h => absurd h hp⟩
  | fires _ _ hp => exact ⟨hq, fun h => absurd h hp⟩
  | expires id hp => exact ⟨hq, hs⟩
  | setsPhase phase tick hp hp' => exact ⟨fun _ => hq hp, fun h => absurd h hp'⟩
  | stops hp => exact ⟨fun h => absurd rfl h, fun _ => ⟨⟨_, (hq hp).symm⟩, rfl⟩⟩
  | @enters _ _ p ps hb hc =>
    have hp : m.phase ≠ .stopped := fun hp => by cases hb.symm.trans (hs hp).2
    refine ⟨fun _ => ?_, fun h => absurd h hp⟩
    have ha : History.accepted [(t, .accepted p)] = [p] := rfl
    have ht : History.taken [(t, .accepted p)] = [] := rfl
    rw [History.accepted_append, History.taken_append, ha, ht, hq hp, List.append_nil,
      List.append_assoc]
  | shows e =>
    obtain ⟨ha, ht⟩ := hn [(t, .shown e)] rfl rfl
    exact ⟨by rwa [ha, ht], by rwa [ha, ht]⟩
  | succeeds o =>
    obtain ⟨ha, ht⟩ := hn [(t, .ended _ (.ok o))] rfl rfl
    exact ⟨by rwa [ha, ht], by rwa [ha, ht]⟩
  | fails e =>
    obtain ⟨ha, ht⟩ := hn [(t, .ended _ (.error e)), (t, .shown (.log e.report)), (t, .armed _)]
      rfl rfl
    exact ⟨by rwa [ha, ht], by rwa [ha, ht]⟩
  | begins cause inbox hp hi =>
    refine ⟨fun _ => ?_, fun h => absurd (abandon_phase m ▸ h) hp⟩
    have hi' : m.inbox = cause.post?.toList ++ inbox := by cases cause <;> exact hi
    rw [History.accepted_began, History.taken_began, hq hp, List.append_assoc]
    exact congrArg _ hi'

structure Begins (watched : ObjectKey) (xs : List Action) (h : History) (t : Nat) (m : Manager) :
    Prop where
  fresh : m.phase = .fresh → t = 0 ∧ h.begun = []
  first : m.phase ≠ .fresh → ∃ bs, h.begun = (0, .start, watched) :: bs ∧
    ∀ b ∈ bs, b.2.1 ≠ .start
  causes : h.begun.map (·.2.1.action) = xs.filter Action.begins
  keys : ∀ b ∈ h.begun, b.2.2 = b.2.1.key watched

theorem step_begins (hw : m.watched = watched) (hb : Begins watched xs h t m)
    (hx : m.step? t x = some (n, ns)) : Begins watched (xs ++ [x]) (h ++ stamp t ns) t n := by
  have hg : (h ++ stamp t ns).begun
      = h.begun ++ ((x.cause? m).map fun c => (t, c, c.key watched)).toList := by
    rw [History.begun_append, step_begun hx, hw]
  have hl : ∀ b ∈ ((x.cause? m).map fun c => (t, c, c.key watched)).toList,
      ∃ c, x.cause? m = some c ∧ (t, c, c.key watched) = b :=
    fun b hb => Option.map_eq_some_iff.mp (Option.mem_toList.mp hb)
  refine ⟨fun hp => ?_, fun hp => ?_, ?_, ?_⟩ <;> rw [hg]
  · obtain ⟨hp, hc⟩ := (step_phase hx).mp hp
    obtain ⟨ht, hb⟩ := hb.fresh hp
    rw [hc, hb]
    exact ⟨ht, rfl⟩
  · by_cases hf : m.phase = .fresh
    · obtain ⟨rfl, hn⟩ := hb.fresh hf
      have hc : x.cause? m ≠ none := fun hc => hp ((step_phase hx).mpr ⟨hf, hc⟩)
      obtain ⟨c, hc⟩ := Option.ne_none_iff_exists'.mp hc
      obtain rfl := (step_start hx hc).mpr hf
      rw [hn, hc]
      exact ⟨[], rfl, nofun⟩
    · obtain ⟨bs, hb, hbs⟩ := hb.first hf
      rw [hb, List.cons_append]
      refine ⟨_, rfl, List.forall_mem_append.mpr ⟨hbs, fun b hb hs => ?_⟩⟩
      obtain ⟨c, hc, rfl⟩ := hl b hb
      exact hf ((step_start hx hc).mp hs)
  · rw [List.map_append, hb.causes, List.filter_append, ← step_cause hx]
    cases x.cause? m <;> rfl
  · refine List.forall_mem_append.mpr ⟨hb.keys, fun b hb => ?_⟩
    obtain ⟨c, -, rfl⟩ := hl b hb
    rfl

theorem run_begins (ha : Acts (0, opening cluster watched period) xs h (t, m)) :
    Begins watched xs h t m := by
  generalize hs : (0, opening cluster watched period) = s at ha
  generalize he : (t, m) = s' at ha
  induction ha generalizing t m with
  | refl =>
    cases hs
    cases he
    exact ⟨fun _ => ⟨rfl, rfl⟩, fun h => absurd rfl h, rfl, nofun⟩
  | act ha hx ih =>
    cases he
    cases hs
    exact step_begins (run_identity ha.run).2 (ih rfl) hx
  | wait _ _ hq ih =>
    cases he
    obtain ⟨-, hf, hc, hk⟩ := ih rfl
    exact ⟨fun hp => by simp [IdleUntil, hp] at hq, hf, hc, hk⟩

/-- Events from outside come in in the order in which they were sent. -/
theorem run_outside (ha : Acts (0, opening cluster watched period) xs h (t, m))
    (hp : m.phase ≠ .stopped) :
    (h.accepted ++ m.blocked).filter Post.outside = xs.filterMap Action.post? := by
  generalize hs : (0, opening cluster watched period) = s at ha
  generalize he : (t, m) = s' at ha
  induction ha generalizing t m with
  | refl =>
    cases hs
    cases he
    rfl
  | act _ hx ih =>
    cases he
    have hi := ih (step_running hx hp) rfl
    have ho := step_outside hx hp
    rw [List.filter_append] at hi ho
    rw [History.accepted_append, List.append_assoc, List.filter_append, List.filter_append, ho,
      ← List.append_assoc, hi, List.filterMap_append]
    congr 1
  | wait _ _ _ ih =>
    cases he
    exact ih hp rfl

/-- Reconciliations follow one another, and each event that comes in is taken once, in the order in
which they came in. A sender that finds no room waits until its event comes in; only the event of a
retry is given up, by a reconciliation that begins meanwhile. -/
structure Orderly (cluster watched : ObjectKey) (xs : List Action) (h : History) (t : Nat)
    (m : Manager) : Prop where
  shown : h.runLog.entries = h.shown
  reconciliations : h.runLog.beginnings = h.begun
  logFits : LogFits cluster m h
  begins : Begins watched xs h t m
  taken : h.taken <+: h.accepted
  held : m.phase ≠ .stopped → h.accepted = h.taken ++ m.inbox
  idle : m.phase = .waiting → m.step? t .receive = none → h.taken = h.accepted ∧ m.blocked = []
  sent : m.phase ≠ .stopped →
    (h.accepted ++ m.blocked).filter Post.outside = xs.filterMap Action.post?
  waits : ∀ x n ns, m.step? t x = some (n, ns) → n.phase ≠ .stopped → ∀ p ∈ m.blocked,
    p ∈ n.blocked ∨ p ∈ History.accepted (stamp t ns) ∨
      x.begins ∧ ∃ id, m.pending = some id ∧ p.sender = .retry id
  givenUp : ∀ x n ns, m.step? t x = some (n, ns) → n.phase ≠ .stopped → x.begins →
    ∀ p id, m.pending = some id → p.sender = .retry id →
      p ∉ n.blocked ∧ p ∉ History.accepted (stamp t ns)

theorem Coherent.idle (hc : Coherent m h) (hp : m.phase = .waiting)
    (hx : m.step? t .receive = none) : m.inbox = [] ∧ m.blocked = [] := by
  have hi : m.inbox = [] := by
    cases hi : m.inbox with
    | nil => rfl
    | cons p ps => simp [step?, hp, hi] at hx
  refine ⟨hi, by_contra fun hb => ?_⟩
  have hf := hc.full hb
  rw [hi] at hf
  cases hf

theorem run_orderly (ha : Acts (0, opening cluster watched period) xs h (t, m)) :
    Orderly cluster watched xs h t m := by
  obtain ⟨hq, hs⟩ := run_queue ha.run
  refine ⟨h.runLog_entries, h.runLog_beginnings, run_logFits ha.run, run_begins ha, ?_, hq, ?_,
    run_outside ha, fun x n ns hx hp p hb => step_waits hx hp hb,
    fun x n ns hx hp hb p id hi hs => step_gives_up hx hp hb hi hs⟩
  · by_cases hp : m.phase = .stopped
    · exact (hs hp).1
    · exact ⟨_, (hq hp).symm⟩
  · intro hp hx
    obtain ⟨hi, hb⟩ := (run_coherent ha.run).idle hp hx
    have hq := hq (by simp [hp])
    rw [hi, List.append_nil] at hq
    exact ⟨hq.symm, hb⟩

/-- More events are sent than there is room for. When the reconciliation of the first is over a
tick is due, and is taken; the others stay where they are. -/
theorem tick_leaves_events : ∃ xs h m p,
    Acts (0, opening ⟨"prod", "fleet"⟩ ⟨"agent", "addon"⟩ 1000) xs h (2000, m) ∧
      h.begun = [(0, .start, ⟨"agent", "addon"⟩), (0, .post p, p.event.key),
        (2000, .tick, ⟨"agent", "addon"⟩)] ∧
      m.inbox.length = capacity ∧ h.accepted = p :: m.inbox := by
  obtain ⟨h, ⟨t, m⟩, hr, hc⟩ := play_run
    (s := (0, opening ⟨"prod", "fleet"⟩ ⟨"agent", "addon"⟩ 1000))
    ([.act .start] ++
      List.replicate (capacity + 1) (.act (.send 0 ⟨⟨"agent", "addon"⟩, .applied⟩)) ++
      [.act (.answer (.error "refused")), .act .receive, .wait 2000,
        .act (.answer (.error "refused")), .act .tick])
    (P := fun h s => s.1 = 2000 ∧ s.2.running ∧ s.2.inbox.length = capacity ∧
      h.begun.map (fun b => (b.1, b.2.1)) = [(0, .start),
        (0, .post ⟨.outside 0, ⟨⟨"agent", "addon"⟩, .applied⟩⟩), (2000, .tick)])
    (by decide +kernel)
  simp only [decide_eq_true_eq] at hc
  obtain ⟨rfl, hp, hi, hb⟩ := hc
  obtain ⟨xs, ha⟩ := acts_of_run hr
  have ho := run_orderly ha
  have hk : h.begun = h.begun.map fun b => (b.1, b.2.1, b.2.1.key ⟨"agent", "addon"⟩) :=
    (List.map_id _).symm.trans (List.map_congr_left fun b hb => by rw [← ho.begins.keys b hb]; rfl)
  have hb : h.begun = _ := hk.trans
    ((List.map_map (g := fun b => (b.1, b.2, b.2.key ⟨"agent", "addon"⟩))).symm.trans
      (congrArg _ hb))
  have hq := ho.held fun hs => by simp [running, hs] at hp
  rw [History.taken, hb] at hq
  exact ⟨xs, h, m, _, ha, hb, hi, hq⟩

/-- A retry's event waits at the full inbox when a tick is due. The tick is taken, and its
reconciliation gives the event up: it waits no more and has never come in. -/
theorem tick_drops_blocked_retry :
    ∃ xs h m n ns,
      Acts (0, opening ⟨"prod", "fleet"⟩ ⟨"agent", "addon"⟩ 300000) xs h (300000, m) ∧
      refusedRetry.post ∈ m.blocked ∧ m.step? 300000 .tick = some (n, ns) ∧
      n.phase ≠ .stopped ∧ n.retries = [] ∧ refusedRetry.post ∉ n.blocked ∧
      refusedRetry.post ∉ History.accepted (h ++ stamp 300000 ns) := by
  obtain ⟨h, ⟨t, m⟩, hr, hc⟩ := play_run refusedThenFull
    (s := (0, opening ⟨"prod", "fleet"⟩ ⟨"agent", "addon"⟩ 300000))
    (P := fun h s => s.1 = 300000 ∧ refusedRetry.post ∈ s.2.blocked ∧
      (s.2.step? 300000 .tick).any fun x => x.1.running ∧ x.1.retries = [] ∧
        refusedRetry.post ∉ x.1.blocked ∧
        refusedRetry.post ∉ History.accepted (h ++ stamp 300000 x.2))
    (by decide +kernel)
  simp only [decide_eq_true_eq] at hc
  obtain ⟨rfl, hb, hs⟩ := hc
  obtain ⟨xs, ha⟩ := acts_of_run hr
  cases hx : m.step? 300000 .tick with
  | none => simp [hx] at hs
  | some s =>
    simp only [hx, Option.any_some, decide_eq_true_eq] at hs
    obtain ⟨hn, hd, hq, hi⟩ := hs
    exact ⟨xs, h, m, s.1, s.2, ha, hb, hx, fun hs => by simp [running, hs] at hn, hd, hq, hi⟩

end Runs

end Manager

end TokenCourier
