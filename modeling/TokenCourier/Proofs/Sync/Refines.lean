import TokenCourier.Proofs.Sync.Settle

namespace TokenCourier

structure Servers where
  cluster : Store
  hub : Store
  asked : Nat

namespace Servers

/-- A request that fails has no effect. -/
def serve (faults : Nat → Option Answer) (w : Servers) (s : Server) (r : Request) :
    Answer × Servers :=
  match faults w.asked, s with
  | some a, _ => (a, { w with asked := w.asked + 1 })
  | none, .cluster =>
    let (a, st) := w.cluster.serve r
    (a, { w with cluster := st, asked := w.asked + 1 })
  | none, .hub =>
    let (a, st) := w.hub.serve r
    (a, { w with hub := st, asked := w.asked + 1 })

def reconcile (faults : Nat → Option Answer) (cluster key : ObjectKey) (st hub : Store) :
    Except SyncError Outcome × Servers :=
  let (r, _, w) := (Exchange.reconcile cluster key).run (serve faults) ⟨st, hub, 0⟩
  (r, w)

end Servers

namespace Store

/-- The cluster's secret is there as it is built, under some version. -/
def Holds (hub : Store) (cluster : ObjectKey) (token address : String) : Prop :=
  ∃ version, hub.secret? cluster.clusterSecret
    = some (some ((ClusterSecret.build cluster token address).2.versioned version))

theorem read_is_get {r : Request} (hr : r.method = .get) (st : Store) : (st.serve r).2 = st := by
  obtain ⟨m, path, query, body⟩ := r
  subst hr
  cases hp : Address.ofPath? path with
  | none => simp [serve, hp]
  | some a => rw [serve_get hp]

variable {hub : Store} {cluster : ObjectKey} {a : Address} {token address : String}

theorem put_other {b : Address} {text : Option String} (hb : b ≠ a) :
    (hub.put a text).objects b = hub.objects b := by
  simp [put, hb]

theorem delete_gone (hub : Store) (a : Address) : (hub.delete a).2.objects a = none := by
  cases ho : hub.objects a with
  | none => simp [delete, ho]
  | some text => simp [delete, ho, put]

theorem delete_other {b : Address} (hb : b ≠ a) : (hub.delete a).2.objects b = hub.objects b := by
  cases ho : hub.objects a with
  | none => simp [delete, ho]
  | some text =>
    simp only [delete, ho]
    exact put_other hb

theorem publish_other {b : Address} (hb : b ≠ secretAt cluster.clusterSecret) :
    (hub.publish cluster token address).objects b = hub.objects b :=
  put_other hb

theorem publish_holds (hub : Store) (cluster : ObjectKey) (token address : String) :
    (hub.publish cluster token address).Holds cluster token address := by
  refine ⟨toString hub.revision, ?_⟩
  have ho : (hub.publish cluster token address).objects (secretAt cluster.clusterSecret)
      = some (hub.kept (ClusterSecret.build cluster token address).2).compact := by
    simp [publish, put]
  rw [secret?, find, ho, Option.map_some]
  exact congrArg some (Secret.readback _)

theorem secret_absent : hub.secret? cluster.clusterSecret = none ↔
    hub.objects (secretAt cluster.clusterSecret) = none := by
  simp [secret?, find]

end Store

section Settling

variable {cluster : ObjectKey} {hub : Store} {fails : Nat → Bool}
  {account : Option (Option ServiceAccount)} {token : Option String} {t address : String}

def NoneFail (fails : Nat → Bool) (is : List Nat) : Prop := ∀ i ∈ is, fails i = false

instance (fails : Nat → Bool) (is : List Nat) : Decidable (NoneFail fails is) :=
  inferInstanceAs (Decidable (∀ i ∈ is, fails i = false))

theorem noneFail_cons {i : Nat} {is : List Nat} :
    NoneFail fails (i :: is) ↔ fails i = false ∧ NoneFail fails is :=
  List.forall_mem_cons

theorem noneFail_nil : NoneFail fails [] ↔ True := by simp [NoneFail]

/-- The ways in which a reconciliation can come out, each with what it takes. -/
inductive Settled (cluster : ObjectKey) (account : Option (Option ServiceAccount))
    (token : Option String) (address : String) (fails : Nat → Bool) (hub : Store) :
    Option Outcome × Store → Prop where
  | deleted : account = none → NoneFail fails [0, 1] →
    Settled cluster account token address fails hub
      (some .deleted, (hub.delete (secretAt cluster.clusterSecret)).2)
  | created (sa : ServiceAccount) (t : String) : account = some (some sa) → token = some t →
    NoneFail fails [0, 1, 2, 4, 5] → hub.secret? cluster.clusterSecret = none →
    Settled cluster account token address fails hub
      (some .created, hub.publish cluster t (if fails 3 then "" else address))
  | updated (sa : ServiceAccount) (t : String) (old : Secret) : account = some (some sa) →
    token = some t → NoneFail fails [0, 1, 2, 4, 5] →
    hub.secret? cluster.clusterSecret = some (some old) →
    Settled cluster account token address fails hub
      (some .updated, hub.publish cluster t (if fails 3 then "" else address))
  | failed : (account = none → ¬ NoneFail fails [0, 1]) →
    ((∃ sa, account = some (some sa)) → token.isSome → NoneFail fails [0, 1, 2, 4, 5] →
      hub.secret? cluster.clusterSecret = some none) →
    Settled cluster account token address fails hub (none, hub)

theorem settle_settled (cluster : ObjectKey) (account : Option (Option ServiceAccount))
    (token : Option String) (address : String) (fails : Nat → Bool) (hub : Store) :
    Settled cluster account token address fails hub
      (settle cluster account token address fails hub) := by
  unfold settle
  cases h0 : fails 0 with
  | true =>
    simp only [if_true]
    exact .failed (fun _ hp => by simp [noneFail_cons, h0] at hp)
      (fun _ _ hp => by simp [noneFail_cons, h0] at hp)
  | false =>
    simp only [Bool.false_eq_true, if_false]
    match account, token with
    | none, token =>
      cases h1 : fails 1 with
      | true => exact .failed (fun _ hp => by simp [noneFail_cons, h1] at hp) (by simp)
      | false => exact .deleted rfl (by simp [noneFail_cons, noneFail_nil, h0, h1])
    | some none, token => exact .failed (by simp) (by simp)
    | some (some sa), none => exact .failed (by simp) (by simp)
    | some (some sa), some t =>
      cases hf : fails 1 || fails 2 || fails 4 || fails 5 with
      | true =>
        refine .failed (by simp) fun _ _ hp => ?_
        simp [noneFail_cons] at hp
        simp [hp] at hf
      | false =>
        have hp : NoneFail fails [0, 1, 2, 4, 5] := by
          simp only [Bool.or_eq_false_iff] at hf
          simp [noneFail_cons, noneFail_nil, h0, hf]
        simp only [Bool.false_eq_true, if_false]
        unfold written
        cases ho : hub.secret? cluster.clusterSecret with
        | none => exact .created sa t rfl rfl hp ho
        | some o =>
          cases o with
          | none => exact .failed (by simp) fun _ _ _ => ho
          | some old => exact .updated sa t old rfl rfl hp ho

namespace Settled

variable {p : Option Outcome × Store}

theorem others (hs : Settled cluster account token address fails hub p) {a : Address}
    (ha : a ≠ secretAt cluster.clusterSecret) : p.2.objects a = hub.objects a := by
  cases hs with
  | deleted => exact Store.delete_other ha
  | created | updated => exact Store.publish_other ha
  | failed => rfl

theorem deleted_iff (hs : Settled cluster account token address fails hub p) :
    p.1 = some .deleted ↔ account = none ∧ NoneFail fails [0, 1] := by
  cases hs with
  | deleted ha hp => exact ⟨fun _ => ⟨ha, hp⟩, fun _ => rfl⟩
  | created sa t ha | updated sa t old ha => simp [ha]
  | failed hd _ => exact ⟨nofun, fun ⟨ha, hp⟩ => absurd hp (hd ha)⟩

theorem created_iff (hs : Settled cluster account token address fails hub p) :
    p.1 = some .created ↔ (∃ sa, account = some (some sa)) ∧ token.isSome ∧
      hub.secret? cluster.clusterSecret = none ∧ NoneFail fails [0, 1, 2, 4, 5] := by
  cases hs with
  | deleted ha hp => simp [ha]
  | created sa t ha ht hp ho =>
    exact ⟨fun _ => ⟨⟨sa, ha⟩, by rw [ht]; rfl, ho, hp⟩, fun _ => rfl⟩
  | updated sa t old ha ht hp ho => simp [ho]
  | failed _ hf =>
    refine ⟨nofun, fun ⟨ha, ht, ho, hp⟩ => ?_⟩
    cases ho.symm.trans (hf ha ht hp)

theorem updated_iff (hs : Settled cluster account token address fails hub p) :
    p.1 = some .updated ↔ (∃ sa, account = some (some sa)) ∧ token.isSome ∧
      (∃ old, hub.secret? cluster.clusterSecret = some (some old)) ∧
      NoneFail fails [0, 1, 2, 4, 5] := by
  cases hs with
  | deleted ha hp => simp [ha]
  | created sa t ha ht hp ho => simp [ho]
  | updated sa t old ha ht hp ho =>
    exact ⟨fun _ => ⟨⟨sa, ha⟩, by rw [ht]; rfl, ⟨old, ho⟩, hp⟩, fun _ => rfl⟩
  | failed _ hf =>
    refine ⟨nofun, fun ⟨ha, ht, ⟨old, ho⟩, hp⟩ => ?_⟩
    cases ho.symm.trans (hf ha ht hp)

theorem gone (hs : Settled cluster account token address fails hub p) (hd : p.1 = some .deleted) :
    p.2.secret? cluster.clusterSecret = none := by
  cases hs with
  | deleted => exact Store.secret_absent.mpr (Store.delete_gone _ _)
  | created | updated | failed => cases hd

theorem holds (hs : Settled cluster account token address fails hub p)
    (hw : p.1 = some .created ∨ p.1 = some .updated) :
    ∃ t, token = some t ∧ p.2.Holds cluster t (if fails 3 then "" else address) := by
  cases hs with
  | deleted | failed => rcases hw with hw | hw <;> cases hw
  | created _ t _ ht | updated _ t _ _ ht => exact ⟨t, ht, Store.publish_holds hub cluster t _⟩

theorem unchanged (hs : Settled cluster account token address fails hub p) (hf : p.1 = none) :
    p.2 = hub := by
  cases hs with
  | failed => rfl
  | deleted | created | updated => cases hf

end Settled

end Settling

section Runs

structure Refines (cluster key : ObjectKey) (fails : Nat → Bool) (st hub : Store)
    (r : Except SyncError Outcome) (w : Servers) : Prop where
  settled : (r.toOption, w.hub)
    = settle cluster (st.account? key) st.token? st.address fails hub
  kept : w.cluster = st
  others : ∀ a, a ≠ secretAt cluster.clusterSecret → w.hub.objects a = hub.objects a
  deleted : r = .ok .deleted ↔ st.account? key = none ∧ NoneFail fails [0, 1]
  created : r = .ok .created ↔ (∃ sa, st.account? key = some (some sa)) ∧ st.token?.isSome ∧
    hub.secret? cluster.clusterSecret = none ∧ NoneFail fails [0, 1, 2, 4, 5]
  updated : r = .ok .updated ↔ (∃ sa, st.account? key = some (some sa)) ∧ st.token?.isSome ∧
    (∃ old, hub.secret? cluster.clusterSecret = some (some old)) ∧ NoneFail fails [0, 1, 2, 4, 5]
  gone : r = .ok .deleted → w.hub.secret? cluster.clusterSecret = none
  holds : r = .ok .created ∨ r = .ok .updated → ∃ t, st.token? = some t ∧
    w.hub.Holds cluster t (if fails 3 then "" else st.address)
  failed : (∃ e, r = .error e) → w.hub = hub

variable {cluster key : ObjectKey} {fails : Nat → Bool} {st hub : Store}
  {r : Except SyncError Outcome} {w : Servers}

theorem toOption_ok {o : Outcome} : r = .ok o ↔ r.toOption = some o := by
  cases r <;> simp [Except.toOption]

theorem toOption_error : (∃ e, r = .error e) ↔ r.toOption = none := by
  cases r <;> simp [Except.toOption]

theorem refines_of_settles (hw : w.cluster = st)
    (h : (r.toOption, w.hub) = settle cluster (st.account? key) st.token? st.address fails hub) :
    Refines cluster key fails st hub r w := by
  have hs := settle_settled cluster (st.account? key) st.token? st.address fails hub
  rw [← h] at hs
  exact {
    settled := h
    kept := hw
    others := fun a ha => hs.others ha
    deleted := toOption_ok.trans hs.deleted_iff
    created := toOption_ok.trans hs.created_iff
    updated := toOption_ok.trans hs.updated_iff
    gone := fun hd => hs.gone (toOption_ok.mp hd)
    holds := fun hw => hs.holds (hw.imp toOption_ok.mp toOption_ok.mp)
    failed := fun hf => hs.unchanged (toOption_error.mp hf) }

variable {faults : Nat → Option Answer}

/-- A store that is only read is the same at each request. -/
theorem sources_same (hl : st.Linked) :
    Sources (fun _ c => c = st) key (st.account? key) st.token? st.address where
  account := by rintro c rfl; rfl
  token := by rintro i c rfl; rfl
  address := by rintro i c rfl; rfl
  secrets := by rintro i j c d rfl rfl k; rfl
  linked := by rintro i c rfl; exact hl

def unshared (st : Store) (faults : Nat → Option Answer) : ServerContract (Store × Nat) :=
  honest (fun _ c => c = st) (fun hub hub' => hub' = hub) fun i => (faults i).isSome

theorem preserves_same (a : Address) : Preserves (fun hub hub' => hub' = hub) a where
  trans := by rintro st st' st'' rfl rfl; rfl
  same := by rintro st st' rfl; rfl

def Servers.At (st : Store) (w : Servers) (s : Store × Nat) : Prop :=
  w.cluster = st ∧ w.hub = s.1 ∧ w.asked = s.2

theorem serve_unshared (hf : ∀ i a, faults i = some a → a.Refuses) {s : Store × Nat} (sv : Server)
    (q : Request) (hw : w.At st s) (hq : (unshared st faults).Asks sv q) :
    ∃ s', (unshared st faults).Answers s sv q (w.serve faults sv q).1 s' ∧
      (w.serve faults sv q).2.At st s' := by
  obtain ⟨hub, i⟩ := s
  obtain ⟨c, h, n⟩ := w
  obtain ⟨rfl, rfl, rfl⟩ : c = st ∧ h = hub ∧ n = i := hw
  unfold Servers.serve
  cases ha : faults n with
  | some a =>
    have hn : (faults n).isSome = true := by simp [ha]
    exact ⟨(h, n + 1), honest.refuses rfl hn (hf n a ha), rfl, rfl, rfl⟩
  | none =>
    have hn : (faults n).isSome = false := by simp [ha]
    cases sv with
    | cluster =>
      exact ⟨(h, n + 1), honest.reads rfl hn rfl, Store.read_is_get (hq rfl) c, rfl, rfl⟩
    | hub => exact ⟨((h.serve q).2, n + 1), honest.serves rfl hn, rfl, rfl, rfl⟩

/-- A reconciliation against two stores, any of whose answers may be errors instead, refines one
step. -/
theorem reconcile_refines (hc : cluster.Valid) (hk : key.Valid) (hl : st.Linked)
    (hf : ∀ i a, faults i = some a → a.Refuses) :
    Refines cluster key (fun i => (faults i).isSome) st hub
      (Servers.reconcile faults cluster key st hub).1
      (Servers.reconcile faults cluster key st hub).2 := by
  have hr : (Exchange.reconcile cluster key).Ensures (unshared st faults) (hub, 0) _ :=
    Exchange.reconcile_settles hc hk (preserves_same _) (sources_same hl)
  have hw : Servers.At st ⟨st, hub, 0⟩ (hub, 0) := ⟨rfl, rfl, rfl⟩
  obtain ⟨s, ⟨hcl, hh, -⟩, hub', rfl, hq⟩ :=
    hr.run hw fun w s sv q hw hq => serve_unshared hf sv q hw hq
  rw [← hh] at hq
  exact refines_of_settles hcl hq

def issuerJson : Json :=
  .obj [("secrets", .arr [.obj [("name", .str "application-manager-dockercfg-1")]])]

def issuer : ServiceAccount where
  secrets := [some "application-manager-dockercfg-1"]

def issued : Secret where
  metadata := { annotations := some [(tokenValue, "token")] }

def issuedKey : ObjectKey := ⟨"application-manager-dockercfg-1", tokenAccount.ns⟩

namespace Store

def issuing : Store where
  objects a :=
    if a = accountAt tokenAccount then some issuerJson.compact
    else if a = secretAt issuedKey then some issued.toJson.compact
    else none
  revision := 1

def empty : Store := ⟨fun _ => none, 1⟩

theorem issuing_account : issuing.account? tokenAccount = some (some issuer) := by
  have hp : issuerJson.plain = true := by decide
  have hd : ServiceAccount.decode? issuerJson = some issuer := by decide
  have ho : issuing.objects (accountAt tokenAccount) = some issuerJson.compact := by simp [issuing]
  rw [account?, find, ho, Option.map_some, Json.read?_compact _ hp, Option.bind_some, hd]

theorem issuing_secret : issuing.secret? issuedKey = some (some issued) := by
  have hn : secretAt issuedKey ≠ accountAt tokenAccount := by decide
  have ho : issuing.objects (secretAt issuedKey) = some issued.toJson.compact := by
    simp [issuing, hn]
  rw [secret?, find, ho, Option.map_some, Secret.readback]

theorem issuing_other {key : ObjectKey} (hk : key ≠ tokenAccount) :
    issuing.account? key = none := by
  have ha : accountAt key ≠ accountAt tokenAccount := fun h => hk (accountAt_inj h)
  have hs : accountAt key ≠ secretAt issuedKey := (secretAt_ne_accountAt issuedKey key).symm
  have ho : issuing.objects (accountAt key) = none := by simp [issuing, ha, hs]
  rw [account?, find, ho, Option.map_none]

theorem issuing_token : issuing.token? = some "token" := by
  have hn : issuer.dockercfg? = some issuedKey.name := by decide
  have ht : issued.token? = some "token" := by decide
  have hk : (⟨issuedKey.name, tokenAccount.ns⟩ : ObjectKey) = issuedKey := rfl
  simp [token?, issuing_account, hn, hk, issuing_secret, ht]

theorem issuing_linked : issuing.Linked := by
  intro key sa hs name hn
  by_cases hk : key = tokenAccount
  · subst hk
    cases issuing_account.symm.trans hs
    cases List.mem_singleton.mp hn
    decide
  · cases (issuing_other hk).symm.trans hs

end Store

def refusedAt (n i : Nat) : Option Answer := if i = n then some (.error "refused") else none

theorem refusedAt_refuses (n i : Nat) {a : Answer} (ha : refusedAt n i = some a) : a.Refuses := by
  unfold refusedAt at ha
  split at ha
  · cases ha
    exact ⟨_, rfl, rfl, rfl⟩
  · cases ha

/-- The address cannot be read; the rest can, and the secret is created. -/
theorem secret_created_without_address :
    (Servers.reconcile (refusedAt 3) ⟨"prod", "fleet"⟩ tokenAccount .issuing .empty).1
        = .ok .created ∧
      (Servers.reconcile (refusedAt 3) ⟨"prod", "fleet"⟩ tokenAccount .issuing .empty).2.hub.Holds
        ⟨"prod", "fleet"⟩ "token" "" := by
  have hc : ObjectKey.Valid ⟨"prod", "fleet"⟩ := ⟨by decide +kernel, by decide +kernel⟩
  have hr : Refines _ _ _ _ .empty _ _ := reconcile_refines hc tokenAccount_valid
    Store.issuing_linked fun i a ha => refusedAt_refuses 3 i ha
  have ht : Store.issuing.token?.isSome := by simp [Store.issuing_token]
  have hd := hr.created.mpr ⟨⟨issuer, Store.issuing_account⟩, ht, rfl, by decide⟩
  obtain ⟨t, ht, hh⟩ := hr.holds (.inl hd)
  cases Store.issuing_token.symm.trans ht
  exact ⟨hd, hh⟩

end Runs

end TokenCourier
