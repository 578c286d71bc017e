import TokenCourier.Proofs.Manager.Order

namespace TokenCourier

namespace Manager

variable {P : ObjectKey → Prop} {t : Nat} {m n : Manager} {h : History} {cause : Cause}
  {key : ObjectKey} {ns : List Note} {x : Action} {xs : List Action} {s s' : Nat × Manager}

/-- What holds of every key that the manager has to do with. -/
structure Keyed (P : ObjectKey → Prop) (m : Manager) : Prop where
  watched : P m.watched
  inbox : ∀ p ∈ m.inbox, P p.event.key
  blocked : ∀ p ∈ m.blocked, P p.event.key
  retries : ∀ r ∈ m.retries, P r.key
  under : ∀ c k next, m.phase = .reconciling c k next → P k

theorem Keyed.letIn (hk : Keyed P m) : Keyed P m.letIn.1 := by
  refine ⟨hk.watched, ?_, ?_, hk.retries, hk.under⟩
  · intro p hp
    obtain hp | hp := List.mem_append.mp hp
    · exact hk.inbox p hp
    · exact hk.blocked p (List.mem_of_mem_take hp)
  · intro p hp
    exact hk.blocked p (List.mem_of_mem_drop hp)

theorem Keyed.abandon (hk : Keyed P m) : Keyed P m.abandon := by
  have hb : m.abandon.blocked.Sublist m.blocked := abandon_blocked m
  have hr : m.abandon.retries.Sublist m.retries := abandon_retries m
  refine ⟨?_, ?_, fun p hp => hk.blocked p (hb.subset hp),
    fun r hm => hk.retries r (hr.subset hm), ?_⟩
  · have hw : m.abandon.watched = m.watched := by
      unfold Manager.abandon
      split <;> rfl
    rw [hw]
    exact hk.watched
  · rw [abandon_inbox]
    exact hk.inbox
  · rw [abandon_phase]
    exact hk.under

theorem conclude_keyed (hk : Keyed P m) (hp : P key) (r : Except SyncError Outcome) :
    Keyed P (m.conclude t key r).1 := by
  obtain ⟨hw, hi, hb, hr, hu⟩ := hk
  cases r with
  | ok o => exact ⟨hw, hi, hb, hr, hu⟩
  | error e =>
    -- the retry is for the key that failed
    exact ⟨hw, hi, hb, List.forall_mem_append.mpr ⟨hr, by simpa using hp⟩, hu⟩

theorem finish_keyed (hk : Keyed P m) (hp : P key) (r : Except SyncError Outcome) :
    Keyed P (m.finish t cause key r).1 := by
  obtain ⟨hw, hi, hb, hr, -⟩ := conclude_keyed (t := t) hk hp r
  have hn : ∀ q ∈ ([] : List Post), P q.event.key := List.forall_mem_nil _
  unfold finish
  cases cause with
  | post p | tick => exact ⟨hw, hi, hb, hr, fun c k f he => by cases he⟩
  | start =>
    simp only [listen]
    split
    · exact ⟨hw, hi, hb, hr, fun c k f he => by cases he⟩
    · exact ⟨hw, hn, hn, hr, fun c k f he => by cases he⟩

theorem proceed_keyed (hk : Keyed P m) (hp : P key) (x : Exchange (Except SyncError Outcome)) :
    Keyed P (m.proceed t cause key x).1 := by
  unfold proceed
  split
  · refine ⟨hk.watched, hk.inbox, hk.blocked, hk.retries, fun c k next he => ?_⟩
    cases he
    exact hp
  · exact finish_keyed hk hp _

theorem begin_keyed (hk : Keyed P m) (hp : P key) : Keyed P (m.begin t cause key).1 :=
  proceed_keyed hk.abandon.letIn hp _

theorem send_keyed (hk : Keyed P m) {p : Post} (hp : P p.event.key) : Keyed P (m.send p).1 := by
  by_cases hs : m.phase = .stopped
  · rwa [send_stopped hs]
  · rw [send_running hs]
    obtain ⟨hw, hi, hb, hr, hu⟩ := hk
    apply Keyed.letIn
    exact ⟨hw, hi, List.forall_mem_append.mpr ⟨hb, by simpa using hp⟩, hr, hu⟩

theorem step_keyed (hk : Keyed P m) (hx : m.step? t x = some (n, ns))
    (hp : ∀ p, x.post? = some p → P p.event.key) : Keyed P n := by
  obtain ⟨hw, hi, hb, hr, hu⟩ := hk
  have hs := step_cases hx
  cases x with
  | start =>
    obtain ⟨-, he⟩ := hs
    obtain rfl : _ = n := congrArg Prod.fst he
    exact begin_keyed ⟨hw, hi, hb, hr, hu⟩ hw
  | send id e =>
    obtain rfl : _ = n := congrArg Prod.fst hs
    exact send_keyed ⟨hw, hi, hb, hr, hu⟩ (hp _ rfl)
  | fire id =>
    obtain ⟨r, hm, -, -, he⟩ := hs
    obtain rfl : _ = n := congrArg Prod.fst he
    have hf : Keyed P { m with retries := m.retries.filter (·.id != id) } :=
      ⟨hw, hi, hb, fun q hq => hr q (List.mem_filter.mp hq).1, hu⟩
    exact send_keyed hf (hr r hm)
  | receive =>
    obtain ⟨p, ps, -, hl, he⟩ := hs
    obtain rfl : _ = n := congrArg Prod.fst he
    rw [hl] at hi
    obtain ⟨hp, hi⟩ := List.forall_mem_cons.mp hi
    exact begin_keyed ⟨hw, hi, hb, hr, hu⟩ hp
  | tick =>
    obtain ⟨-, he⟩ := hs
    obtain rfl : _ = n := congrArg Prod.fst he
    exact begin_keyed ⟨hw, hi, hb, hr, hu⟩ hw
  | answer a =>
    obtain ⟨c, k, next, hq, he⟩ := hs
    obtain rfl : _ = n := congrArg Prod.fst he
    exact proceed_keyed ⟨hw, hi, hb, hr, hu⟩ (hu c k next hq) _

theorem Keyed.begun (hk : Keyed P m) (hx : m.step? t x = some (n, ns)) :
    ∀ b ∈ History.begun (stamp t ns), P b.2.2 := by
  rw [step_begun hx]
  intro b hb
  obtain ⟨c, hc, rfl⟩ := Option.map_eq_some_iff.mp (Option.mem_toList.mp hb)
  cases x with
  | start | tick =>
    cases hc
    exact hk.watched
  | receive =>
    obtain ⟨p, hp, rfl⟩ := Option.map_eq_some_iff.mp hc
    exact hk.inbox p (List.mem_of_mem_head? hp)
  | send | fire | answer => cases hc

theorem acts_keyed (hk : Keyed P s.2) (ha : Acts s xs h s')
    (hp : ∀ p ∈ xs.filterMap Action.post?, P p.event.key) :
    Keyed P s'.2 ∧ ∀ b ∈ h.begun, P b.2.2 := by
  induction ha with
  | refl => exact ⟨hk, nofun⟩
  | act _ hx ih =>
    rw [List.filterMap_append] at hp
    obtain ⟨hq, hp⟩ := List.forall_mem_append.mp hp
    obtain ⟨hk, hb⟩ := ih hq
    rw [History.begun_append]
    refine ⟨step_keyed hk hx fun p he => hp p (by simp [he]), ?_⟩
    exact List.forall_mem_append.mpr ⟨hb, hk.begun hx⟩
  | wait _ _ _ ih => exact ih hp

end Manager

end TokenCourier
