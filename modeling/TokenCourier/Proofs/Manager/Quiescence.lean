import TokenCourier.Proofs.Manager.Scene

namespace TokenCourier

namespace Scene

open Manager

def NothingQueued (s : Scene) : Prop := s.owed = 0 ∧ s.manager.inbox = [] ∧ s.manager.blocked = []

variable (cluster watched : ObjectKey) (st : Store) (t : String)

/-- The service account is still what it was when it was read, or word of a change is on its way. -/
def Fresh (s : Scene) (account : Option (Option ServiceAccount)) : Prop :=
  s.NothingQueued → s.cluster.account? watched = account

/-- `P` holds of the service account as it was read, or of whatever it will be when it is read. -/
def Known (s : Scene) (P : Option (Option ServiceAccount) → Prop) : Prop :=
  (s.served = [] → ∀ account, P account) ∧
    (s.served ≠ [] → ∃ account, s.Fresh watched account ∧ P account)

/-- What is known of the latest reconciliation in each phase of the manager. -/
structure Stage (s : Scene) : Prop where
  idle : s.call ≠ .idle → ∃ c k next, s.manager.phase = .reconciling c k next
  pending : ∀ c k next sv r, s.manager.phase = .reconciling c k next → s.call = .pending sv r →
    s.Known watched fun account =>
      LeadsToAgreement cluster watched st t account s.served s.hub (.ask sv r next)
  answered : ∀ c k next a, s.manager.phase = .reconciling c k next → s.call = .answered a →
    s.served ≠ [] ∧ ∃ account, s.Fresh watched account ∧
      LeadsToAgreement cluster watched st t account s.served s.hub (next a)
  waiting : s.manager.phase = .waiting → ∃ c as r, Concluded s.history c as r ∧
    (r.toOption.isSome → ∃ account, s.Fresh watched account ∧
      Agrees cluster t st.address (fun i => s.served.getD i false) s.hub account)

structure Sound (s : Scene) : Prop where
  tied : Dedicated cluster watched s.manager
  coherent : Coherent s.manager s.history
  sources : SameSources st s.cluster
  stage : Stage cluster watched st t s

variable {cluster watched : ObjectKey} {st : Store} {t : String} {s s' : Scene}

theorem Fresh.mono {account : Option (Option ServiceAccount)} (hf : s.Fresh watched account)
    (hq : s'.NothingQueued →
      s.NothingQueued ∧ s'.cluster.account? watched = s.cluster.account? watched) :
    s'.Fresh watched account := by
  intro hs
  obtain ⟨hq, ha⟩ := hq hs
  exact ha.trans (hf hq)

theorem Known.now {P : Option (Option ServiceAccount) → Prop} (hk : s.Known watched P) :
    ∃ account, s.Fresh watched account ∧ P account ∧
      (s.served = [] → s.cluster.account? watched = account) := by
  by_cases hs : s.served = []
  · exact ⟨s.cluster.account? watched, fun _ => rfl, hk.1 hs _, fun _ => rfl⟩
  · obtain ⟨account, hf, hp⟩ := hk.2 hs
    exact ⟨account, hf, hp, fun h => absurd h hs⟩

theorem Known.mono {P Q : Option (Option ServiceAccount) → Prop} (hk : s.Known watched P)
    (hs : s'.served = s.served)
    (hq : s'.NothingQueued →
      s.NothingQueued ∧ s'.cluster.account? watched = s.cluster.account? watched)
    (hp : ∀ account, P account → Q account) : s'.Known watched Q := by
  refine ⟨fun h account => hp _ (hk.1 (hs ▸ h) account), fun h => ?_⟩
  obtain ⟨account, hf, ha⟩ := hk.2 (hs ▸ h)
  exact ⟨account, hf.mono hq, hp _ ha⟩

theorem Stage.keep (hs : Stage cluster watched st t s)
    (hp : s'.manager.phase = s.manager.phase) (hc : s'.call = s.call) (hd : s'.served = s.served)
    (hh : Others (secretAt cluster.clusterSecret) s.hub s'.hub)
    (hq : s'.NothingQueued →
      s.NothingQueued ∧ s'.cluster.account? watched = s.cluster.account? watched)
    (ho : ∀ c as r, Concluded s.history c as r → Concluded s'.history c as r) :
    Stage cluster watched st t s' where
  idle h := by
    rw [hc] at h
    rw [hp]
    exact hs.idle h
  pending c k next sv r h h' := by
    rw [hp] at h
    rw [hc] at h'
    refine (hs.pending c k next sv r h h').mono hd hq fun account ha => ?_
    rw [hd]
    exact ha.others hh
  answered c k next a h h' := by
    rw [hp] at h
    rw [hc] at h'
    obtain ⟨hn, account, hf, ha⟩ := hs.answered c k next a h h'
    rw [hd]
    exact ⟨hn, account, hf.mono hq, ha.others hh⟩
  waiting h := by
    rw [hp] at h
    obtain ⟨c, as, r, hr, ha⟩ := hs.waiting h
    refine ⟨c, as, r, ho c as r hr, fun hn => ?_⟩
    obtain ⟨account, hf, ha⟩ := ha hn
    rw [hd]
    exact ⟨account, hf.mono hq, ha.others hh⟩

theorem after_after (s : Scene) (m n : Manager) (ns ms : List Note) :
    (s.after m ns).after n ms = s.after n (ns ++ ms) := by
  simp [after, stamp]

theorem after_plain {m : Manager} {ns : List Note} (hn : ns.all Note.plain = true) :
    s.after m ns = { s with manager := m, history := s.history ++ stamp s.now ns } := by
  obtain ⟨hc, hs⟩ := foldl_plain hn s.call s.served
  rw [after, hc, hs]

section Proceeding

variable {m : Manager} {cause : Cause} {as : List Reconciliation}
  {x : Exchange (Except SyncError Outcome)}

theorem proceed_stage (hi : s.call = .idle) (hp : s.manager.phase ≠ .stopped)
    (hu : InProgress s.history cause watched as)
    (hk : s.Known watched fun account =>
      LeadsToAgreement cluster watched st t account s.served s.hub x) :
    Stage cluster watched st t (s.after (s.manager.proceed s.now cause watched x).1
      (s.manager.proceed s.now cause watched x).2) := by
  unfold Manager.proceed
  split
  · next lines sv r next he =>
    rw [← after_after _ { s.manager with phase := .reconciling cause watched next },
      after_plain (plain_logs lines)]
    refine ⟨fun _ => ⟨cause, watched, next, rfl⟩, fun c k n sv' r' hq hc => ?_,
      fun c k n a hq hc => ?_, fun hq => ?_⟩
    · cases hq
      cases hc
      refine hk.mono rfl (fun h => ⟨h, rfl⟩) fun account ha => ?_
      have ha := ha.advance
      rw [he] at ha
      exact ha
    · cases hc
    · cases hq
  · next lines r he =>
    have hf : (logs lines ++ (s.manager.finish s.now cause watched r).2).all Note.plain = true := by
      simp [plain_logs, plain_finish]
    obtain ⟨-, ho⟩ := finish_moves (m := s.manager) (t := s.now) (hu.logs lines) hp r
    have hq : SameQueue s.manager (s.manager.finish s.now cause watched r).1 := finish_queue r
    dsimp only
    rw [after_plain hf]
    generalize s.manager.finish s.now cause watched r = n at ho hq
    refine ⟨fun h => absurd hi h, fun c k n sv' r' hn hc => ?_, fun c k n a hn hc => ?_,
      fun hn => ⟨cause, as, r, ?_, fun hr => ?_⟩⟩
    · cases hi.symm.trans hc
    · cases hi.symm.trans hc
    · rw [stamp_append, ← List.append_assoc]
      exact ho
    · obtain ⟨account, hf, ha, -⟩ := hk.now
      have ha := ha.advance
      rw [he] at ha
      obtain ⟨hi', hb'⟩ | ⟨hs, -⟩ := hq
      · exact ⟨account, hf.mono fun ⟨hw, hi, hb⟩ =>
          ⟨⟨hw, hi'.symm.trans hi, hb'.symm.trans hb⟩, rfl⟩, ha hr⟩
      · cases hs.symm.trans hn

theorem begin_stage (cause : Cause) {n : Manager} {key : ObjectKey} (hc : cluster.Valid)
    (hw : watched.Valid) (ht : st.token? = some t) (hk : key = watched)
    (hn : Dedicated cluster watched n) (hi : s.call = .idle) (hp : n.phase ≠ .stopped) :
    Stage cluster watched st t
      (s.after (n.begin s.now cause key).1 (n.begin s.now cause key).2) := by
  subst hk
  have hl : n.abandon.letIn.1.cluster = cluster := hn.abandon.letIn.identity
  let s₁ := s.after n.abandon.letIn.1 (.began cause key :: n.abandon.letIn.2)
  obtain ⟨hcl, hsv⟩ := foldl_plain (plain_accepted (n.abandon.blocked.take
    (capacity - n.abandon.inbox.length))) s.call []
  have hs : s₁.served = [] := hsv
  have hu : InProgress s₁.history cause key s.history.ledger := by
    have hb : InProgress (s.history ++ [(s.now, .began cause key)]) cause key s.history.ledger :=
      ⟨_, History.ledger_began s.history s.now cause key, rfl, rfl, rfl⟩
    have hb := hb.came (t := s.now)
      (n.abandon.blocked.take (capacity - n.abandon.inbox.length))
    rwa [List.append_assoc] at hb
  have hk : s₁.Known key fun account => LeadsToAgreement cluster key st t account s₁.served s₁.hub
      (Exchange.reconcile cluster key) := by
    rw [hs]
    -- nothing was read yet, so it may come out for any service account
    exact ⟨fun _ account => LeadsToAgreement.reconcile hc hw ht, fun h => absurd hs h⟩
  have hd := proceed_stage (s := s₁) (hcl.trans hi) (by
    change n.abandon.letIn.1.phase ≠ _
    rwa [letIn_phase, abandon_phase]) hu hk
  rw [after_after] at hd
  rw [begin_eq, hl]
  exact hd

theorem send_stage {n : Manager} (hs : Stage cluster watched st t s)
    (hp : n.phase = s.manager.phase) (p : Post) (owed : Nat) :
    Stage cluster watched st t { s.after (n.send p).1 (n.send p).2 with owed } := by
  rw [after_plain (plain_send p)]
  by_cases hn : n.phase = .stopped
  -- nothing is claimed of a manager that has stopped
  · have hq : s.manager.phase = .stopped := hp.symm.trans hn
    rw [send_stopped hn]
    refine ⟨fun h => ?_, fun c k next sv r h => ?_, fun c k next a h => ?_, fun h => ?_⟩
    · obtain ⟨c, k, next, h⟩ := hs.idle h
      cases hq.symm.trans h
    · cases hn.symm.trans h
    · cases hn.symm.trans h
    · cases hn.symm.trans h
  · rw [send_running hn]
    refine hs.keep hp rfl rfl rfl (fun hq => ?_) fun c as r ho => ho.came _
    obtain ⟨-, hi, hb⟩ := hq
    -- the event is in the inbox or waits there, so something is queued
    have hl : n.inbox ++ (n.blocked ++ [p]) = [] := by
      have hi := List.append_eq_nil_iff.mp hi
      rw [hi.1, List.nil_append, ← List.take_append_drop (capacity - n.inbox.length)
        (n.blocked ++ [p]), hi.2, List.nil_append]
      exact hb
    simp at hl

end Proceeding

theorem Stage.unasked (hs : Stage cluster watched st t s)
    (hp : ∀ c k next, s.manager.phase ≠ .reconciling c k next) : s.call = .idle := by
  by_contra hc
  obtain ⟨c, k, next, hq⟩ := hs.idle hc
  exact hp c k next hq

variable (hc : cluster.Valid) (hw : watched.Valid) (ht : st.token? = some t)

include hc hw ht

theorem acts_stage {x : Action} {m : Manager} {ns : List Note} (hs : Sound cluster watched st t s)
    (hx : x.Own) (hm : s.manager.step? s.now x = some (m, ns)) :
    Stage cluster watched st t (s.after m ns) := by
  have hm := step_cases hm
  obtain ⟨hti, -, -, hst⟩ := hs
  cases x with
  | start =>
    obtain ⟨hp, he⟩ := hm
    have hi : s.call = .idle := hst.unasked (by simp [hp])
    have hb := begin_stage (s := s.after s.manager (logs [started s.manager.cluster]))
      .start hc hw ht hti.account hti hi (by simp [hp])
    rw [after_after] at hb
    cases he
    exact hb
  | send id e => cases hx
  | fire id =>
    obtain ⟨r, -, -, -, he⟩ := hm
    have hd := send_stage (n := { s.manager with
      retries := s.manager.retries.filter (·.id != id) }) hst rfl r.post s.owed
    rwa [he] at hd
  | receive =>
    obtain ⟨p, ps, hp, hq, he⟩ := hm
    have hi : s.call = .idle := hst.unasked (by simp [hp])
    have hk : p.event.key = watched := hti.inbox p (by simp [hq])
    have hn : Dedicated cluster watched { s.manager with inbox := ps } :=
      ⟨hti.identity, hti.account, fun q hm => hti.inbox q (by simp [hq, hm]), hti.blocked,
        hti.retries, hti.key⟩
    have hb := begin_stage (.post p) hc hw ht hk hn hi (by simp [hp])
    rwa [he] at hb
  | tick =>
    obtain ⟨hp, he⟩ := hm
    have hi : s.call = .idle := hst.unasked (by simp [hp])
    have hn : Dedicated cluster watched { s.manager with
        tick := following s.manager.period s.manager.tick s.now } :=
      ⟨hti.identity, hti.account, hti.inbox, hti.blocked, hti.retries, hti.key⟩
    have hb := begin_stage .tick hc hw ht hti.account hn hi (by simp [hp])
    rwa [he] at hb
  | answer a => cases hx

omit hc hw ht

theorem answers_stage {a : Answer} {m : Manager} {ns : List Note}
    (hs : Sound cluster watched st t s) (ha : s.call = .answered a)
    (hm : s.manager.step? s.now (.answer a) = some (m, ns)) :
    Stage cluster watched st t ({ s with call := .idle }.after m ns) := by
  obtain ⟨c, k, next, hp, he⟩ := step_cases hm
  obtain ⟨as, hu⟩ := hs.coherent.running c k next hp
  obtain rfl := hs.tied.key c k next hp
  obtain ⟨hn, account, hf, hd⟩ := hs.stage.answered c k next a hp ha
  have hb := proceed_stage (s := { s with call := .idle }) rfl (by simp [hp]) hu
    (x := next a) ⟨fun h => absurd h hn, fun _ => ⟨account, hf, hd⟩⟩
  rwa [he] at hb

theorem served_stage {hub : Store} {a : Answer} {b : Bool} {c : Cause} {k : ObjectKey}
    {next : Answer → Exchange (Except SyncError Outcome)}
    (hp : s.manager.phase = .reconciling c k next) {account : Option (Option ServiceAccount)}
    (hf : s.Fresh watched account)
    (hl : LeadsToAgreement cluster watched st t account (s.served ++ [b]) hub (next a)) :
    Stage cluster watched st t ({ s with hub }.answered a b) where
  idle _ := ⟨c, k, next, hp⟩
  pending _ _ _ _ _ _ h := nomatch h
  answered c' k' next' a' h h' := by
    cases hp.symm.trans h
    cases h'
    exact ⟨List.append_ne_nil_of_right_ne_nil _ (List.cons_ne_nil b []), account, hf, hl⟩
  waiting h := nomatch hp.symm.trans h

theorem opening_sound (cluster watched : ObjectKey) (period : Nat) (hub : Store) (t : String)
    (hl : st.Linked) :
    Sound cluster watched st t (opening cluster watched period st hub) where
  tied := .opening cluster watched period
  coherent := opening_coherent cluster watched period
  sources := .refl hl
  stage := ⟨fun h => absurd rfl h, nofun, nofun, nofun⟩

/-- Every step of a scene keeps `Sound`. -/
theorem step_sound (hc : cluster.Valid) (hw : watched.Valid) (ht : st.token? = some t)
    (hs : Sound cluster watched st t s) (hx : Step s s') : Sound cluster watched st t s' := by
  have hst := hs.stage
  have hid := hs.tied.identity
  cases hx with
  | acts ho hm =>
    refine ⟨hs.tied.step (fun id e he => ?_) hm, (step_moves hs.coherent hm).2, hs.sources,
      acts_stage hc hw ht hs ho hm⟩
    subst he
    cases ho
  | told id trigger owed _ _ hm =>
    refine ⟨hs.tied.step (fun id e he => ?_) hm, (step_moves hs.coherent hm).2, hs.sources, ?_⟩
    · cases he
      exact hs.tied.account
    · have hd := send_stage (n := s.manager) hst rfl ⟨.outside id, ⟨s.manager.watched, trigger⟩⟩
        owed
      rwa [step_cases hm] at hd
  | reads ha =>
    obtain ⟨c, k, next, hp⟩ := hst.idle (by simp [ha])
    obtain ⟨account, hf, hl, hn⟩ := (hst.pending c k next .cluster _ hp ha).now
    rw [Store.read_is_get (hl.asks rfl) s.cluster]
    exact ⟨hs.tied, hs.coherent, hs.sources, served_stage hp hf (hl.read hs.sources hn)⟩
  | writes ha =>
    obtain ⟨c, k, next, hp⟩ := hst.idle (by simp [ha])
    obtain ⟨account, hf, hl, -⟩ := (hst.pending c k next .hub _ hp ha).now
    exact ⟨hs.tied, hs.coherent, hs.sources, served_stage hp hf hl.written⟩
  | refuses ha hr =>
    obtain ⟨c, k, next, hp⟩ := hst.idle (by simp [ha])
    obtain ⟨account, hf, hl, -⟩ := (hst.pending c k next _ _ hp ha).now
    exact ⟨hs.tied, hs.coherent, hs.sources, served_stage hp hf (hl.refused hr)⟩
  | answers ha hm =>
    refine ⟨hs.tied.step (fun id e he => ?_) hm, (step_moves hs.coherent hm).2, hs.sources,
      answers_stage hs ha hm⟩
    cases he
  | changes c ha =>
    refine ⟨hs.tied, hs.coherent, hs.sources.trans ha,
      hst.keep rfl rfl rfl rfl (fun hq => ?_) fun _ _ _ ho => ho⟩
    cases hq.1
  | others c hub ha hn hh =>
    rw [hid] at hh
    rw [hs.tied.account] at hn
    exact ⟨hs.tied, hs.coherent, hs.sources.trans ha,
      hst.keep rfl rfl rfl hh (fun hq => ⟨hq, hn⟩) fun _ _ _ ho => ho⟩
  | waits til _ =>
    exact ⟨hs.tied, hs.coherent, hs.sources,
      hst.keep rfl rfl rfl rfl (fun hq => ⟨hq, rfl⟩) fun _ _ _ ho => ho⟩

theorem steps_sound {period : Nat} {hub : Store} (hc : cluster.Valid) (hw : watched.Valid)
    (hl : st.Linked) (ht : st.token? = some t)
    (hr : Steps (opening cluster watched period st hub) s) : Sound cluster watched st t s := by
  induction hr with
  | refl => exact opening_sound cluster watched period hub t hl
  | tail _ hx ih => exact step_sound hc hw ht ih hx

/-- The hub has the cluster's secret exactly if the watched service account is there. It is then as
it is built of the token and the address, or of an empty address if the latest reconciliation could
not read it. -/
theorem quiescent_consistent {period : Nat} {hub : Store} (hc : cluster.Valid) (hw : watched.Valid)
    (hl : st.Linked) (ht : st.token? = some t)
    (hr : Steps (opening cluster watched period st hub) s) (hq : s.Quiescent) :
    ((s.hub.objects (secretAt cluster.clusterSecret)).isSome ↔
      (s.cluster.objects (accountAt watched)).isSome) ∧
    ((s.cluster.objects (accountAt watched)).isSome →
      s.hub.Holds cluster t (if s.served[3]? = some true then "" else st.address)) := by
  have hs := steps_sound hc hw hl ht hr
  obtain ⟨c, as, r, ⟨a, u, ha, -, hv⟩, hd⟩ := hs.stage.waiting hq.waiting
  obtain ⟨b, bs, v, o, hb, hvb⟩ := hq.succeeded
  cases ha.symm.trans hb
  cases hv.symm.trans hvb
  obtain ⟨account, hf, hg⟩ := hd rfl
  -- nobody waits at an empty inbox
  have hbl : s.manager.blocked = [] := by
    by_contra hn
    have hl := hs.coherent.full hn
    simp [hq.inbox, capacity] at hl
  have hn := hf ⟨hq.owed, hq.inbox, hbl⟩
  refine ⟨hg.exists_iff hn, fun he => ?_⟩
  have h3 : s.served.getD 3 false = true ↔ s.served[3]? = some true := by
    rw [List.getD_eq_getElem?_getD]
    cases s.served[3]? <;> simp
  have hh := hg.holds hn he
  simp only [h3] at hh
  exact hh

section Deleting

def agent : ObjectKey := ⟨"agent", "addon"⟩

def prod : ObjectKey := ⟨"prod", "fleet"⟩

def watchedStore : Store := Store.issuing.put (accountAt agent) (some issuerJson.compact)

theorem watchedStore_sameSources : SameSources .issuing watchedStore := by
  refine Store.put_account_sameSources Store.issuing_linked (by decide) fun sa hs name hn => ?_
  have hp : issuerJson.plain = true := by decide
  have hd : ServiceAccount.decode? issuerJson = some issuer := by decide
  rw [Option.bind_some, Json.read?_compact _ hp, Option.bind_some, hd] at hs
  cases hs
  cases List.mem_singleton.mp hn
  decide

/-- The service account is deleted at the start, word of it is received after the first
reconciliation, and the secret is gone with it. -/
theorem secret_goes_with_account :
    ∃ s, Steps (opening prod agent 3600000 watchedStore
        (Store.empty.put (secretAt prod.clusterSecret) (some "old"))) s ∧
      s.Quiescent ∧ s.hub.objects (secretAt prod.clusterSecret) = none := by
  have hl : watchedStore.Linked := watchedStore_sameSources.linked
  let s₀ : Scene := opening prod agent 3600000 watchedStore
    (Store.empty.put (secretAt prod.clusterSecret) (some "old"))
  let s₁ : Scene := { s₀ with cluster := watchedStore.put (accountAt agent) none, owed := 1 }
  have hs : Step s₀ s₁ :=
    .changes _ (Store.put_account_sameSources hl (by decide) Store.linksValid_none)
  have hx : (List.foldlM turn? s₁ [.own .start, .told 0 .deleted, .served, .answered, .served,
      .answered, .own .receive, .served, .answered, .served, .answered]).any (fun s =>
        s.owed = 0 ∧ s.manager.inbox = [] ∧ s.manager.waits ∧
        s.history.ledger.head?.bind (·.verdict) = some (0, .ok .deleted) ∧
        (s.cluster.objects (accountAt agent)).isSome = false) = true := by
    decide +kernel
  obtain ⟨s, hr, hq⟩ := (Option.any_eq_true _ _).mp hx
  simp only [decide_eq_true_eq] at hq
  obtain ⟨ho, hi, hw, hv, hn⟩ := hq
  have hr : Steps s₀ s := turns_steps (.single hs) hr
  obtain ⟨a, ha, hv⟩ := Option.bind_eq_some_iff.mp hv
  obtain ⟨as, ha⟩ := List.head?_eq_some_iff.mp ha
  have hq : s.Quiescent := ⟨ho, hi, phase_of_waits hw, a, as, 0, .deleted, ha, hv⟩
  have ht : watchedStore.token? = some "token" :=
    watchedStore_sameSources.token.trans Store.issuing_token
  have hc : prod.Valid := ⟨by decide +kernel, by decide +kernel⟩
  have hk : agent.Valid := ⟨by decide +kernel, by decide +kernel⟩
  have hg := (quiescent_consistent hc hk hl ht hr hq).1
  rw [hn] at hg
  exact ⟨s, hr, hq, by simpa using hg⟩

end Deleting

end Scene

end TokenCourier
