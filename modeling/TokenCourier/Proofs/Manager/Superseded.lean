import TokenCourier.Proofs.Manager.Retry

namespace TokenCourier

namespace Manager

variable {t u : Nat} {m n : Manager} {h g : History} {a b : Reconciliation}
  {as : List Reconciliation} {p : Post}

/-- A retry is taken only after the failure that scheduled it, and came in before the next
reconciliation began. -/
def RetriesScheduled : List Reconciliation → Prop
  | [] => True
  | a :: as =>
    (∀ p, a.cause = .post p → p.sender.retry? ≠ none → ∃ b ∈ as, b.Schedules p ∧ p ∈ b.came) ∧
      RetriesScheduled as

structure RetryOrigins (m : Manager) (as : List Reconciliation) : Prop where
  scheduled : RetriesScheduled as
  inbox : m.phase ≠ .stopped → ∀ p ∈ m.inbox, p.sender.retry? ≠ none →
    ∃ b ∈ as, b.Schedules p ∧ p ∈ b.came
  came : ∀ b ∈ as, ∀ p ∈ b.came,
    p ∈ m.inbox ∨ m.phase = .stopped ∨ ∃ c ∈ as, c.cause = .post p
  below : ∀ a ∈ as, ∀ r, a.retry = some r → r.id < m.spawned
  distinct : as.Pairwise fun a b => ∀ r s, a.retry = some r → b.retry = some s → r.id ≠ s.id
  once : as.Pairwise fun a b =>
    ∀ p, a.cause = .post p → p.sender.retry? ≠ none → b.cause ≠ .post p

theorem RetryOrigins.same (ht : RetryOrigins m as) (hi : n.inbox = m.inbox)
    (hs : n.spawned = m.spawned) (hp : n.phase = .stopped ↔ m.phase = .stopped) :
    RetryOrigins n as := by
  obtain ⟨hr, hb, hc, hl, hd, ho⟩ := ht
  refine ⟨hr, fun hn => ?_, ?_, ?_, hd, ho⟩
  · rw [hi]
    exact hb (mt hp.mpr hn)
  · rw [hi, hp]
    exact hc
  · rw [hs]
    exact hl

theorem RetryOrigins.continues (ht : RetryOrigins m (a :: as)) (hc : b.cause = a.cause)
    (hs : ∀ p, a.Schedules p → b.Schedules p) (hk : ∀ p ∈ a.came, p ∈ b.came)
    (hb : ∀ p ∈ b.came, p ∈ a.came ∨ p ∈ n.inbox) (hi : ∀ p ∈ m.inbox, p ∈ n.inbox)
    (hn : n.phase ≠ .stopped → ∀ p ∈ n.inbox, p.sender.retry? ≠ none →
      p ∈ m.inbox ∨ b.Schedules p ∧ p ∈ b.came)
    (hp : n.phase = m.phase) (hle : m.spawned ≤ n.spawned)
    (hr : ∀ r, b.retry = some r → r.id < n.spawned ∧
      ∀ c ∈ as, ∀ s, c.retry = some s → r.id ≠ s.id) : RetryOrigins n (b :: as) := by
  obtain ⟨ho, hf, hm, hl, hd, hu⟩ := ht
  rw [List.pairwise_cons] at hd hu
  refine ⟨⟨hc ▸ ho.1, ho.2⟩, fun hq p hpn hpr => ?_, fun c hcm p hpc => ?_, fun c hcm r hcr => ?_,
    List.pairwise_cons.mpr ⟨fun c hcm r s hbr => (hr r hbr).2 c hcm s, hd.2⟩,
    List.pairwise_cons.mpr ⟨fun c hcm p => hc ▸ hu.1 c hcm p, hu.2⟩⟩
  · obtain hpm | hpb := hn hq p hpn hpr
    · obtain ⟨c, hcm, hcs, hcc⟩ := hf (hp ▸ hq) p hpm hpr
      obtain rfl | hcm := List.mem_cons.mp hcm
      · exact ⟨b, List.mem_cons_self, hs p hcs, hk p hcc⟩
      · exact ⟨c, List.mem_cons_of_mem _ hcm, hcs, hcc⟩
    · exact ⟨b, List.mem_cons_self, hpb⟩
  · have hold : (∃ d ∈ a :: as, p ∈ d.came) →
        p ∈ n.inbox ∨ n.phase = .stopped ∨ ∃ c ∈ b :: as, c.cause = .post p := by
      rintro ⟨d, hdm, hpd⟩
      obtain hpi | hph | ⟨e, hem, hec⟩ := hm d hdm p hpd
      · exact .inl (hi p hpi)
      · exact .inr (.inl (hp.trans hph))
      · obtain rfl | hem := List.mem_cons.mp hem
        · exact .inr (.inr ⟨b, List.mem_cons_self, hc.trans hec⟩)
        · exact .inr (.inr ⟨e, List.mem_cons_of_mem _ hem, hec⟩)
    obtain rfl | hcm := List.mem_cons.mp hcm
    · obtain hpa | hpi := hb p hpc
      · exact hold ⟨a, List.mem_cons_self, hpa⟩
      · exact .inl hpi
    · exact hold ⟨c, List.mem_cons_of_mem _ hcm, hpc⟩
  · obtain rfl | hcm := List.mem_cons.mp hcm
    · exact (hr r hcr).1
    · exact Nat.lt_of_lt_of_le (hl c (List.mem_cons_of_mem _ hcm) r hcr) hle

/-- A retry whose event waits for room was scheduled by the latest reconciliation. -/
theorem RetryStatus.schedules (hs : RetryStatus t m as) (hp : m.phase ≠ .stopped)
    (hb : p ∈ m.blocked) (hr : p.sender.retry? ≠ none) :
    ∃ a, as.head? = some a ∧ a.Schedules p := by
  cases hs with
  | clear hq => exact absurd (hq.2.2 p hb) hr
  | @failed a as u e r hv hy hk hd hm =>
    obtain hs | hf | hl := hm
    · exact absurd (hs.alone p hb) hr
    · obtain hn | rfl := hf.alone p hb
      · exact absurd hn hr
      · exact ⟨a, rfl, r, u, e, hy, rfl, hv⟩
    · exact absurd hl.1 hp

theorem Numbered.untaken (hn : Numbered m as) (hp : p ∈ m.inbox) (hr : p.sender.retry? ≠ none)
    (ha : a ∈ as) : a.cause ≠ .post p := by
  obtain ⟨id, hid⟩ := Option.ne_none_iff_exists'.mp hr
  intro hc
  have hi : 0 < m.inbox.countP (·.sender.retry? == some id) :=
    List.countP_pos_iff.mpr ⟨p, hp, by simp [hid]⟩
  have hl : 0 < as.countP (·.cause.retry? == some id) :=
    List.countP_pos_iff.mpr ⟨a, ha, by simp [hc, Cause.retry?, hid]⟩
  have ho := (hn id).1
  simp only [copies] at ho
  omega

theorem enters_retryOrigins {ps : List Post} (hw : m.blocked = p :: ps)
    (hs : RetryStatus t m h.ledger) (ht : RetryOrigins m h.ledger) :
    RetryOrigins { m with inbox := m.inbox ++ [p], blocked := ps }
      (History.ledger (h ++ [(t, .accepted p)])) := by
  have hb : p ∈ m.blocked := by simp [hw]
  cases ha : h.ledger with
  | nil =>
    have hl : History.ledger (h ++ [(t, .accepted p)]) = [] := History.ledger_early t ha [p]
    rw [ha] at ht hs
    obtain ⟨hr, hi, -, hlt, hd, ho⟩ := ht
    rw [hl]
    refine ⟨hr, fun hp q hq hqr => ?_, fun b hb => (by cases hb), hlt, hd, ho⟩
    obtain hq | hq := List.mem_append.mp hq
    · exact hi hp q hq hqr
    · obtain rfl := List.mem_singleton.mp hq
      obtain ⟨b, hbh, -⟩ := hs.schedules hp hb hqr
      cases hbh
  | cons a as =>
    rw [History.ledger_accepted t ha p]
    rw [ha] at ht hs
    refine ht.continues rfl (fun q hq => hq) (fun q hq => List.mem_append_left _ hq) ?_
      (fun q hq => List.mem_append_left _ hq) ?_ rfl (Nat.le_refl _) fun r hr => ?_
    · intro q hq
      obtain hq | hq := List.mem_append.mp hq
      · exact .inl hq
      · exact .inr (List.mem_append_right _ hq)
    · intro hp q hq hqr
      obtain hq | hq := List.mem_append.mp hq
      · exact .inl hq
      · obtain rfl := List.mem_singleton.mp hq
        obtain ⟨b, hbh, hbs⟩ := hs.schedules hp hb hqr
        cases hbh
        exact .inr ⟨hbs, List.mem_append_right _ hq⟩
    · have hd := (List.pairwise_cons.mp ht.distinct).1
      exact ⟨ht.below a List.mem_cons_self r hr, fun c hc s => hd c hc r s hr⟩

theorem begins_retryOrigins {c : Cause} {k : ObjectKey} {inbox : List Post}
    (hp : m.phase ≠ .stopped)
    (hb : match c with
      | .post p => m.inbox = p :: inbox
      | _ => m.inbox = inbox)
    (hn : Numbered m as) (ht : RetryOrigins m as) :
    RetryOrigins { m.abandon with inbox } ({ cause := c, key := k, start := t } :: as) := by
  obtain ⟨hr, hi, hm, hl, hd, ho⟩ := ht
  have hsub : ∀ q ∈ inbox, q ∈ m.inbox := by
    cases c with
    | post p => exact fun q hq => hb ▸ List.mem_cons_of_mem p hq
    | start | tick => exact fun q hq => hb ▸ hq
  have hcause : ∀ p, c = .post p → p ∈ m.inbox := by
    rintro p rfl
    exact hb ▸ List.mem_cons_self
  refine ⟨⟨fun p hc hpr => hi hp p (hcause p hc) hpr, hr⟩, fun _ q hq hqr => ?_,
    fun b hbm q hqb => ?_, fun b hbm r hbr => ?_,
    List.pairwise_cons.mpr ⟨fun b _ r s hr => (by cases hr), hd⟩,
    List.pairwise_cons.mpr ⟨fun b hbm q hq hqr => hn.untaken (hcause q hq) hqr hbm, ho⟩⟩
  · obtain ⟨b, hbm, hbs⟩ := hi hp q (hsub q hq) hqr
    exact ⟨b, List.mem_cons_of_mem _ hbm, hbs⟩
  · obtain rfl | hbm := List.mem_cons.mp hbm
    · cases hqb
    · obtain hq | hq | ⟨d, hdm, hdc⟩ := hm b hbm q hqb
      · cases c with
        | post p =>
          simp only at hb
          rw [hb, List.mem_cons] at hq
          obtain rfl | hq := hq
          · exact .inr (.inr ⟨_, List.mem_cons_self, rfl⟩)
          · exact .inl hq
        | start | tick =>
          simp only at hb
          exact .inl (hb ▸ hq)
      · exact absurd hq hp
      · exact .inr (.inr ⟨d, List.mem_cons_of_mem _ hdm, hdc⟩)
  · obtain rfl | hbm := List.mem_cons.mp hbm
    · cases hbr
    · exact (abandon_spawned m).symm ▸ hl b hbm r hbr

theorem move_retryOrigins {s : Manager × History} (hm : Move t (m, h) s) (hn : Numbered m h.ledger)
    (hs : RetryStatus t m h.ledger) (ht : RetryOrigins m h.ledger) :
    RetryOrigins s.1 s.2.ledger := by
  cases hm with
  | sends id e hp => exact ht.same rfl rfl Iff.rfl
  | fires hr hd hp => exact ht.same rfl rfl Iff.rfl
  | expires o hp => exact ht.same rfl rfl Iff.rfl
  | enters hw hc => exact enters_retryOrigins hw hs ht
  | shows e =>
    rw [History.ledger_shown]
    exact ht
  | begins c inbox hp hb =>
    rw [History.ledger_began]
    exact begins_retryOrigins hp hb hn ht
  | succeeds o ha hv =>
    rw [History.ledger_ended t ha]
    rw [ha] at ht
    have hd := (List.pairwise_cons.mp ht.distinct).1
    refine ht.continues rfl ?_ (fun q hq => hq) (fun q hq => .inl hq) (fun q hq => hq)
      (fun _ q hq _ => .inl hq) rfl (Nat.le_refl _) fun r hr =>
        ⟨ht.below _ List.mem_cons_self r hr, fun c hc s => hd c hc r s hr⟩
    rintro q ⟨r, u, e, -, -, he⟩
    cases hv.symm.trans he
  | fails e ha hv =>
    rw [History.ledger_failed t ha]
    rw [ha] at ht
    refine ht.continues rfl ?_ (fun q hq => hq) (fun q hq => .inl hq) (fun q hq => hq)
      (fun _ q hq _ => .inl hq) rfl (Nat.le_succ _) ?_
    · rintro q ⟨r, u, e, -, -, he⟩
      cases hv.symm.trans he
    · rintro r ⟨⟩
      refine ⟨Nat.lt_succ_self _, fun c hc s hs => ?_⟩
      exact (ht.below c (List.mem_cons_of_mem _ hc) s hs).ne'
  | setsPhase phase tick hp hq => exact ht.same rfl rfl (iff_of_false hq hp)
  | stops hp =>
    obtain ⟨hr, -, hm, hl, hd, ho⟩ := ht
    exact ⟨hr, fun hn => absurd rfl hn, fun b hb p hpb => .inr (.inl rfl), hl, hd, ho⟩

variable {cluster watched : ObjectKey} {period : Nat}

theorem run_retryOrigins (hr : Run (0, opening cluster watched period) h (t, m)) :
    Numbered m h.ledger ∧ RetryOrigins m h.ledger := by
  have hi := run_keeps
    (I := fun t s => (Numbered s.1 s.2.ledger ∧ RetryStatus t s.1 s.2.ledger) ∧
      RetryOrigins s.1 s.2.ledger)
    ⟨opening_retryStatus, ⟨trivial, ?_, ?_, ?_, .nil, .nil⟩⟩ ?_ ?_ hr
  · exact ⟨hi.1.1, hi.2⟩
  · intro _ p hp
    cases hp
  · intro b hb
    cases hb
  · intro b hb
    cases hb
  · rintro t ⟨m, h⟩ s ⟨⟨hn, hs⟩, ht⟩ hm
    exact ⟨⟨move_numbered hm hn, move_retryStatus hm hn hs⟩, move_retryOrigins hm hn hs ht⟩
  · rintro t u ⟨m, h⟩ ⟨hs, ht⟩ hu hq
    exact ⟨wait_retryStatus hs hu hq, ht⟩

/-- A retry begins a reconciliation only right after the one whose failure scheduled it. -/
def Prompt (as : List Reconciliation) : Prop :=
  ∀ i a p, as[i]? = some a → a.cause = .post p → p.sender.retry? ≠ none →
    ∃ b, as[i + 1]? = some b ∧ b.Schedules p

/-- What a retry sends is still to be received, or lost, or what begins the next reconciliation. -/
def Unpassed (m : Manager) (as : List Reconciliation) : Prop :=
  ∀ j b p, as[j]? = some b → b.Schedules p → p ∈ b.came →
    p ∈ m.inbox ∨ m.phase = .stopped ∨ ∃ i a, j = i + 1 ∧ as[i]? = some a ∧ a.cause = .post p

theorem RetriesScheduled.get (hr : RetriesScheduled as) {i : Nat} (ha : as[i]? = some a)
    (hc : a.cause = .post p) (hp : p.sender.retry? ≠ none) :
    ∃ j b, i < j ∧ as[j]? = some b ∧ b.Schedules p ∧ p ∈ b.came := by
  induction as generalizing i with
  | nil => cases ha
  | cons c as ih =>
    cases i with
    | zero =>
      cases ha
      obtain ⟨b, hb, hs⟩ := hr.1 p hc hp
      obtain ⟨j, hj⟩ := List.mem_iff_getElem?.mp hb
      exact ⟨j + 1, b, Nat.succ_pos j, hj, hs⟩
    | succ i =>
      obtain ⟨j, b, hij, hb, hs⟩ := ih hr.2 ha
      exact ⟨j + 1, b, Nat.succ_lt_succ hij, hb, hs⟩

theorem schedules_retry (hs : b.Schedules p) : p.sender.retry? ≠ none := by
  obtain ⟨r, u, e, -, rfl, -⟩ := hs
  simp [Retry.post, Sender.retry?]

theorem index_inj {R : Reconciliation → Reconciliation → Prop} (hp : as.Pairwise R) {i j : Nat}
    (ha : as[i]? = some a) (hb : as[j]? = some b) (hab : ¬ R a b) (hba : ¬ R b a) : i = j := by
  obtain ⟨hi, rfl⟩ := List.getElem?_eq_some_iff.mp ha
  obtain ⟨hj, rfl⟩ := List.getElem?_eq_some_iff.mp hb
  obtain hl | he | hl := Nat.lt_trichotomy i j
  · exact absurd (List.pairwise_iff_getElem.mp hp i j hi hj hl) hab
  · exact he
  · exact absurd (List.pairwise_iff_getElem.mp hp j i hj hi hl) hba

/-- No two failures schedule one retry. -/
theorem RetryOrigins.schedules_inj (ht : RetryOrigins m as) {i j : Nat} (ha : as[i]? = some a)
    (hb : as[j]? = some b) (hs : a.Schedules p) (hq : b.Schedules p) : i = j := by
  obtain ⟨r, u, e, hr, rfl, -⟩ := hs
  obtain ⟨q, v, f, hq, hp, -⟩ := hq
  have hid : q.id = r.id := by
    injection (congrArg Post.sender hp)
  exact index_inj ht.distinct ha hb (fun hn => hn r q hr hq hid.symm) fun hn => hn q r hq hr hid

theorem RetryOrigins.cause_inj (ht : RetryOrigins m as) {i j : Nat} (ha : as[i]? = some a)
    (hb : as[j]? = some b) (hp : p.sender.retry? ≠ none) (hc : a.cause = .post p)
    (hd : b.cause = .post p) : i = j :=
  index_inj ht.once ha hb (fun hn => hn p hc hp hd) fun hn => hn p hd hp hc

/-- Every retry that runs belongs to an earlier failure and had come in before the reconciliation
that superseded it; it follows that failure directly exactly if nothing got ahead of it. -/
theorem prompt_iff_unpassed (hr : Run (0, opening cluster watched period) h (t, m)) :
    (∀ (i : Nat) (a : Reconciliation) (p : Post), h.ledger[i]? = some a → a.cause = .post p →
      p.sender.retry? ≠ none →
        ∃ (j : Nat) (b : Reconciliation), i < j ∧ h.ledger[j]? = some b ∧ b.Schedules p ∧
          p ∈ b.came) ∧
    (Prompt h.ledger ↔ Unpassed m h.ledger) := by
  obtain ⟨hn, ht⟩ := run_retryOrigins hr
  refine ⟨fun i a p ha hc hp => ht.scheduled.get ha hc hp, fun hp => ?_, fun hu => ?_⟩
  · intro j b p hb hs hm
    obtain hi | hq | ⟨c, hc, hcp⟩ := ht.came b (List.mem_of_getElem? hb) p hm
    · exact .inl hi
    · exact .inr (.inl hq)
    · obtain ⟨i, hi⟩ := List.mem_iff_getElem?.mp hc
      obtain ⟨d, hd, hds⟩ := hp i c p hi hcp (schedules_retry hs)
      exact .inr (.inr ⟨i, c, ht.schedules_inj hb hd hs hds, hi, hcp⟩)
  · intro i a p ha hc hp
    obtain ⟨j, b, hij, hb, hs, hm⟩ := ht.scheduled.get ha hc hp
    obtain hi | hq | ⟨k, c, rfl, hk, hkc⟩ := hu j b p hb hs hm
    · exact absurd hc (hn.untaken hi hp (List.mem_of_getElem? ha))
    · obtain ⟨r, d, v, hd, -⟩ := (run_coherent hr).stopped hq
      rw [hd, List.getElem?_eq_none (by simp only [List.length_singleton]; omega)] at hb
      cases hb
    · obtain rfl := ht.cause_inj ha hk hp hc hkc
      exact ⟨b, hb, hs⟩

theorem lone_retry_prompt :
    ∃ h m a p, Run (0, opening ⟨"prod", "fleet"⟩ ⟨"agent", "addon"⟩ 3600000) h (300000, m) ∧
      h.ledger.head? = some a ∧ a.cause = .post p ∧ p.sender.retry? ≠ none ∧ Prompt h.ledger := by
  obtain ⟨h, ⟨t, m⟩, hr, hc⟩ := play_run
    (s := (0, opening ⟨"prod", "fleet"⟩ ⟨"agent", "addon"⟩ 3600000))
    [.act .start, .act (.answer (.error "refused")), .wait 300000, .act (.fire 0), .act .receive]
    (P := fun h s => s.1 = 300000 ∧ h.ledger.map (fun a => (a.cause, a.came)) =
      [(.post ⟨.retry 0, ⟨⟨"agent", "addon"⟩, .retry⟩⟩, []),
        (.start, [⟨.retry 0, ⟨⟨"agent", "addon"⟩, .retry⟩⟩])])
    (by decide +kernel)
  simp only [decide_eq_true_eq] at hc
  obtain ⟨rfl, hc⟩ := hc
  obtain ⟨a, b, hl, ha, hb⟩ : ∃ a b, h.ledger = [a, b] ∧
      (a.cause, a.came) = (.post ⟨.retry 0, ⟨⟨"agent", "addon"⟩, .retry⟩⟩, []) ∧
      (b.cause, b.came) = (.start, [⟨.retry 0, ⟨⟨"agent", "addon"⟩, .retry⟩⟩]) := by
    simpa [List.map_eq_cons_iff, and_assoc] using hc
  obtain ⟨hac, ham⟩ := Prod.mk.inj ha
  obtain ⟨hbc, hbm⟩ := Prod.mk.inj hb
  refine ⟨h, m, a, _, hr, by rw [hl]; rfl, hac, nofun, (prompt_iff_unpassed hr).2.mpr ?_⟩
  intro j c p hj _ hp
  rw [hl] at hj ⊢
  match j, hj with
  | 0, rfl =>
    rw [ham] at hp
    cases hp
  | 1, rfl =>
    rw [hbm, List.mem_singleton] at hp
    subst hp
    exact .inr (.inr ⟨0, a, rfl, rfl, hac⟩)

/-- A retry that has come in is not withdrawn: another event was first, its reconciliation began
while the retry was in the inbox, and the retry ran all the same. -/
theorem passed_retry_still_runs :
    ∃ h t m, Run (0, opening ⟨"prod", "fleet"⟩ ⟨"agent", "addon"⟩ 3600000) h (t, m) ∧
      ¬ Prompt h.ledger := by
  obtain ⟨h, ⟨t, m⟩, hr, hc⟩ := play_run
    (s := (0, opening ⟨"prod", "fleet"⟩ ⟨"agent", "addon"⟩ 3600000))
    [.act .start, .wait 10000, .act (.answer (.error "refused")), .wait 310000,
      .act (.send 0 ⟨⟨"other", "addon"⟩, .applied⟩), .act (.fire 0), .act .receive,
      .act (.answer (.error "refused")), .act .receive]
    (P := fun h _ => h.ledger.map (fun a => (a.cause, a.retry)) =
      [(.post ⟨.retry 0, ⟨⟨"agent", "addon"⟩, .retry⟩⟩, none),
        (.post ⟨.outside 0, ⟨⟨"other", "addon"⟩, .applied⟩⟩,
          some ⟨1, ⟨"other", "addon"⟩, 610000⟩),
        (.start, some ⟨0, ⟨"agent", "addon"⟩, 310000⟩)])
    (by decide +kernel)
  simp only [decide_eq_true_eq] at hc
  refine ⟨h, t, m, hr, fun hp => ?_⟩
  obtain ⟨a, b, c, hl, ha, hb, -⟩ : ∃ a b c, h.ledger = [a, b, c] ∧
      (a.cause, a.retry) = (.post ⟨.retry 0, ⟨⟨"agent", "addon"⟩, .retry⟩⟩, none) ∧
      (b.cause, b.retry) = (.post ⟨.outside 0, ⟨⟨"other", "addon"⟩, .applied⟩⟩,
        some ⟨1, ⟨"other", "addon"⟩, 610000⟩) ∧
      (c.cause, c.retry) = (.start, some ⟨0, ⟨"agent", "addon"⟩, 310000⟩) := by
    simpa [List.map_eq_cons_iff, and_assoc] using hc
  rw [hl] at hp
  obtain ⟨d, hd, r, u, e, hdr, hrp, -⟩ := hp 0 a _ rfl (Prod.mk.inj ha).1 nofun
  cases hd
  cases hdr.symm.trans (Prod.mk.inj hb).2
  cases hrp

end Manager

end TokenCourier
