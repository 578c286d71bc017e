import TokenCourier.Sync.Reconcile
import TokenCourier.Proofs.Api.Ensures
import TokenCourier.Proofs.Store.Writes

namespace TokenCourier

def accountAt (key : ObjectKey) : Address := ⟨.serviceAccounts key.ns, key.name⟩

def secretAt (key : ObjectKey) : Address := ⟨.secrets key.ns, key.name⟩

def infrastructureAt : Address := ⟨.infrastructures, "cluster"⟩

theorem secretAt_ne_accountAt (k key : ObjectKey) : secretAt k ≠ accountAt key := by
  intro h
  cases h

theorem infrastructureAt_ne_accountAt (key : ObjectKey) : infrastructureAt ≠ accountAt key := by
  intro h
  cases h

theorem accountAt_inj {k key : ObjectKey} (h : accountAt k = accountAt key) : k = key := by
  obtain ⟨name, ns⟩ := k
  obtain ⟨name', ns'⟩ := key
  cases h
  rfl

namespace Store

def account? (st : Store) (key : ObjectKey) : Option (Option ServiceAccount) :=
  st.find ServiceAccount.decode? (accountAt key)

def secret? (st : Store) (key : ObjectKey) : Option (Option Secret) :=
  st.find Secret.decode? (secretAt key)

def token? (st : Store) : Option String := do
  let sa ← (st.account? tokenAccount).join
  let name ← sa.dockercfg?
  let s ← (st.secret? ⟨name, tokenAccount.ns⟩).join
  s.token?

def address (st : Store) : String :=
  ((st.find Infrastructure.decode? infrastructureAt).join.bind (·.apiServerURL?)).getD ""

/-- Service accounts link secrets by valid names. -/
def Linked (st : Store) : Prop :=
  ∀ key sa, st.account? key = some (some sa) → ∀ name, some name ∈ sa.secrets → ValidName name

/-- The hub with the cluster's secret written whole. -/
def publish (hub : Store) (cluster : ObjectKey) (token address : String) : Store :=
  hub.put (secretAt cluster.clusterSecret)
    (hub.kept (ClusterSecret.build cluster token address).2).compact

end Store

def written (cluster : ObjectKey) (hub : Store) (token address : String) :
    Option Outcome × Store :=
  match hub.secret? cluster.clusterSecret with
  | none => (some .created, hub.publish cluster token address)
  | some none => (none, hub)
  | some (some _) => (some .updated, hub.publish cluster token address)

/-- The outcome and the hub, given the service account as it is read, and which requests fail. -/
def settle (cluster : ObjectKey) (account : Option (Option ServiceAccount)) (token : Option String)
    (address : String) (fails : Nat → Bool) (hub : Store) : Option Outcome × Store :=
  if fails 0 then (none, hub)
  else
    match account, token with
    | none, _ =>
      if fails 1 then (none, hub)
      else (some .deleted, (hub.delete (secretAt cluster.clusterSecret)).2)
    | some (some _), some t =>
      if fails 1 || fails 2 || fails 4 || fails 5 then (none, hub)
      else written cluster hub t (if fails 3 then "" else address)
    | _, _ => (none, hub)

/-- A cluster that is one of the stores `K` at each request, a hub that others may change by `H`
before each, and the requests that fail. The state is the hub and the number of requests so far. -/
def honest (K : Nat → Store → Prop) (H : Store → Store → Prop) (fails : Nat → Bool) :
    ServerContract (Store × Nat) where
  Asks s r := s = .cluster → r.method = .get
  Answers st s r a st' :=
    st'.2 = st.2 + 1 ∧ ∃ hub, H st.1 hub ∧
    if fails st.2 then a.Refuses ∧ st'.1 = hub
    else
      match s with
      | .cluster => (∃ c, K st.2 c ∧ a = (c.serve r).1) ∧ st'.1 = hub
      | .hub => (a, st'.1) = hub.serve r

namespace honest

variable {K : Nat → Store → Prop} {H : Store → Store → Prop} {fails : Nat → Bool}
  {hub hub' : Store} {i : Nat} {r : Request}

theorem refuses {s : Server} {a : Answer} (hh : H hub hub') (hf : fails i = true)
    (ha : a.Refuses) : (honest K H fails).Answers (hub, i) s r a (hub', i + 1) := by
  refine ⟨rfl, hub', hh, ?_⟩
  rw [if_pos (show fails (hub, i).2 = true from hf)]
  exact ⟨ha, rfl⟩

theorem reads {c : Store} (hh : H hub hub') (hf : fails i = false) (hc : K i c) :
    (honest K H fails).Answers (hub, i) .cluster r (c.serve r).1 (hub', i + 1) := by
  refine ⟨rfl, hub', hh, ?_⟩
  rw [if_neg (show ¬ fails (hub, i).2 = true by simp [hf])]
  exact ⟨⟨c, hc, rfl⟩, rfl⟩

theorem serves (hh : H hub hub') (hf : fails i = false) :
    (honest K H fails).Answers (hub, i) .hub r (hub'.serve r).1 ((hub'.serve r).2, i + 1) := by
  refine ⟨rfl, hub', hh, ?_⟩
  rw [if_neg (show ¬ fails (hub, i).2 = true by simp [hf])]

end honest

/-- Changes by others that leave alone what is kept at an address. -/
structure Preserves (H : Store → Store → Prop) (a : Address) : Prop where
  trans : ∀ st st' st'', H st st' → H st' st'' → H st st''
  same : ∀ st st', H st st' → st'.objects a = st.objects a

theorem Preserves.find {H : Store → Store → Prop} {a : Address} (hH : Preserves H a)
    {hub hub' : Store} (hh : H hub hub') {α : Type} (f : Json → Option α) :
    hub'.find f a = hub.find f a := by
  rw [Store.find, hH.same _ _ hh]
  rfl

/-- What the reconciliation reads off the cluster while it runs. -/
structure Sources (K : Nat → Store → Prop) (key : ObjectKey)
    (account : Option (Option ServiceAccount)) (token : Option String) (address : String) :
    Prop where
  account : ∀ c, K 0 c → c.account? key = account
  token : ∀ i c, K i c → c.token? = token
  address : ∀ i c, K i c → c.address = address
  secrets : ∀ i j c d, K i c → K j d → ∀ k, c.secret? k = d.secret? k
  linked : ∀ i c, K i c → c.Linked

def Failed {α : Type} (x : Except ClientError α) : Prop :=
  ∃ e, x = .error e ∧ e.saysNotFound = false

inductive Found {α : Type} : Option (Option α) → Except ClientError α → Prop where
  | absent {e} : e.saysNotFound = true → Found none (.error e)
  | unreadable {e} : e.saysNotFound = false → Found (some none) (.error e)
  | present (v : α) : Found (some (some v)) (.ok v)

theorem Answer.Refuses.failed {α : Type} {a : Answer} (ha : a.Refuses) (f : Json → Option α) :
    Failed (a.object f) := by
  obtain ⟨e, ht, -, he⟩ := ha
  exact ⟨e, by rw [Answer.object, ht]; rfl, he⟩

theorem Store.found {α : Type} (st : Store) (f : Json → Option α) (a : Address) :
    Found (st.find f a) ((st.read a).object f) := by
  cases hf : st.find f a with
  | none =>
    rw [Store.read_absent hf]
    exact .absent rfl
  | some o =>
    cases o with
    | none =>
      rw [Store.read_unreadable hf]
      exact .unreadable rfl
    | some v =>
      rw [Store.read_present hf]
      exact .present v

theorem Store.address_found {st : Store} {x : Except ClientError Infrastructure}
    (hx : Found (st.find Infrastructure.decode? infrastructureAt) x) :
    (x.toOption.bind (·.apiServerURL?)).getD "" = st.address := by
  unfold address
  generalize st.find Infrastructure.decode? infrastructureAt = o at hx
  cases hx <;> rfl

theorem tokenAccount_valid : tokenAccount.Valid := ⟨by decide, by decide⟩

theorem ServiceAccount.dockercfg_linked {sa : ServiceAccount} {name : String}
    (h : sa.dockercfg? = some name) : some name ∈ sa.secrets := by
  have hm := List.mem_of_find?_eq_some h
  simpa using hm

namespace Exchange

variable {K : Nat → Store → Prop} {H : Store → Store → Prop} {fails : Nat → Bool} {hub : Store}
  {i : Nat} {α : Type} {f : Json → Option α} {key : ObjectKey}

theorem read_cluster {path : String} {a : Address} (hp : Address.ofPath? path = some a) :
    (call .cluster (.ok { method := .get, path }) (·.object f)).Ensures (honest K H fails) (hub, i)
      fun x st => H hub st.1 ∧ st.2 = i + 1 ∧ (fails i = true ∧ Failed x ∨
        fails i = false ∧ ∃ c, K i c ∧ Found (c.find f a) x) := by
  refine ensures_call (fun _ => rfl) fun ans st ⟨hi, hub', hh, ha⟩ => ?_
  cases hf : fails i with
  | true =>
    simp only [hf, if_true] at ha
    obtain ⟨ha, rfl⟩ := ha
    exact ⟨hh, hi, .inl ⟨rfl, ha.failed f⟩⟩
  | false =>
    simp only [hf, Bool.false_eq_true, if_false] at ha
    obtain ⟨⟨c, hc, rfl⟩, rfl⟩ := ha
    rw [Store.serve_get hp]
    exact ⟨hh, hi, .inr ⟨rfl, c, hc, c.found f a⟩⟩

theorem read_hub {path : String} {a : Address} (hp : Address.ofPath? path = some a) :
    (call .hub (.ok { method := .get, path }) (·.object f)).Ensures (honest K H fails) (hub, i)
      fun x st => H hub st.1 ∧ st.2 = i + 1 ∧ (fails i = true ∧ Failed x ∨
        fails i = false ∧ Found (st.1.find f a) x) := by
  refine ensures_call nofun fun ans st ⟨hi, hub', hh, ha⟩ => ?_
  cases hf : fails i with
  | true =>
    simp only [hf, if_true] at ha
    obtain ⟨ha, rfl⟩ := ha
    exact ⟨hh, hi, .inl ⟨rfl, ha.failed f⟩⟩
  | false =>
    simp only [hf, Bool.false_eq_true, if_false] at ha
    rw [Store.serve_get hp] at ha
    obtain ⟨rfl, rfl⟩ := Prod.mk.inj ha
    exact ⟨hh, hi, .inr ⟨rfl, st.1.found f a⟩⟩

theorem getServiceAccount_found (key : ObjectKey) (hk : key.Valid) :
    (getServiceAccount .cluster key).Ensures (honest K H fails) (hub, i) fun x st =>
      H hub st.1 ∧ st.2 = i + 1 ∧ (fails i = true ∧ Failed x ∨
        fails i = false ∧ ∃ c, K i c ∧ Found (c.account? key) x) := by
  rw [getServiceAccount, Request.get_named (serviceAccountsOf_fits hk.ns) hk.name.fits (by decide)
    hk.name.nonempty]
  exact read_cluster (ofPath_serviceAccount hk.ns.oneSegment hk.name.oneSegment)

theorem getSecret_found (key : ObjectKey) (hk : key.Valid) :
    (getSecret .cluster key).Ensures (honest K H fails) (hub, i) fun x st =>
      H hub st.1 ∧ st.2 = i + 1 ∧ (fails i = true ∧ Failed x ∨
        fails i = false ∧ ∃ c, K i c ∧ Found (c.secret? key) x) := by
  rw [getSecret, Request.get_named (secretsOf_fits hk.ns) hk.name.fits (by decide)
    hk.name.nonempty]
  exact read_cluster (ofPath_secret hk.ns.oneSegment hk.name.oneSegment)

def published (x : Except ClientError String) : String :=
  match x with
  | .ok a => a
  | .error _ => ""

theorem serverAddress_found :
    serverAddress.Ensures (honest K H fails) (hub, i) fun x st =>
      H hub st.1 ∧ st.2 = i + 1 ∧ (fails i = true ∧ published x = "" ∨
        fails i = false ∧ ∃ c, K i c ∧ published x = c.address) := by
  have hf : Target.Fits 48 (Infrastructure.collectionPath none) := by decide
  have hc : Target.Fits 7 "cluster" := by decide
  rw [serverAddress, Request.get_named hf hc (by decide) (by decide)]
  refine (read_cluster ofPath_infrastructure).then fun x st ⟨hh, hi, hx⟩ => ?_
  obtain ⟨hf, e, rfl, -⟩ | ⟨hf, c, hc, hx⟩ := hx
  · exact ⟨hh, hi, .inl ⟨hf, rfl⟩⟩
  · have ha := Store.address_found hx
    cases x with
    | error e => exact ⟨hh, hi, .inr ⟨hf, c, hc, ha⟩⟩
    | ok v => exact ⟨hh, hi, .inr ⟨hf, c, hc, ha⟩⟩

variable {account : Option (Option ServiceAccount)} {token : Option String} {address : String}

def Resolved (token : Option String) (fails : Nat → Bool) (i : Nat)
    (x : Except TokenCause String) (st : Store × Nat) : Prop :=
  match x with
  | .ok t => st.2 = i + 2 ∧ token = some t ∧ fails i = false ∧ fails (i + 1) = false
  | .error _ => token = none ∨ fails i = true ∨ fails (i + 1) = true

theorem token_found {a : Address} (hH : Preserves H a) (hs : Sources K key account token address) :
    Exchange.token.Ensures (honest K H fails) (hub, i) fun x st =>
      H hub st.1 ∧ Resolved token fails i x st := by
  unfold Exchange.token
  apply (getServiceAccount_found tokenAccount tokenAccount_valid).then
  rintro x ⟨hub₁, j⟩ ⟨hh, rfl, hx⟩
  obtain ⟨hf, e, rfl, -⟩ | ⟨hf, c, hc, hx⟩ := hx
  · exact ⟨hh, .inr (.inl hf)⟩
  have ht := hs.token i c hc
  generalize ha : c.account? tokenAccount = o at hx
  cases hx with
  | absent | unreadable => exact ⟨hh, .inl (by rw [← ht]; simp [Store.token?, ha])⟩
  | present sa =>
    cases hd : sa.dockercfg? with
    | none =>
      simp only [hd]
      exact ⟨hh, .inl (by rw [← ht]; simp [Store.token?, ha, hd])⟩
    | some name =>
      have hn : ValidName name :=
        hs.linked i c hc tokenAccount sa ha name (ServiceAccount.dockercfg_linked hd)
      simp only [hd]
      apply ensures_info
      apply (getSecret_found ⟨name, tokenAccount.ns⟩ ⟨hn, tokenAccount_valid.ns⟩).then
      rintro y ⟨hub₂, j⟩ ⟨hh', rfl, hy⟩
      have hh := hH.trans _ _ _ hh hh'
      obtain ⟨hg, e, rfl, -⟩ | ⟨hg, d, hd', hy⟩ := hy
      · exact ⟨hh, .inr (.inr hg)⟩
      -- the secret is read after the account, from a cluster that may have changed since
      have hcd := hs.secrets i (i + 1) c d hc hd' ⟨name, tokenAccount.ns⟩
      generalize hb : d.secret? ⟨name, tokenAccount.ns⟩ = o at hy
      rw [hb] at hcd
      have ht : token = o.join.bind (·.token?) := by
        rw [← ht]
        simp [Store.token?, ha, hd, hcd]
      cases hy with
      | absent | unreadable => exact ⟨hh, .inl ht⟩
      | present s =>
        cases hv : s.token? with
        | none =>
          simp only [hv]
          cases s.annotation? tokenName <;> exact ⟨hh, .inl (ht.trans hv)⟩
        | some t =>
          simp only [hv]
          cases s.annotation? tokenName <;> exact ⟨hh, rfl, ht.trans hv, hf, hg⟩

/-- The result and the hub are as `out` has them, from a hub to which others had changed the first
one. -/
def SettlesTo (H : Store → Store → Prop) (hub : Store) (out : Store → Option Outcome × Store)
    (r : Except SyncError Outcome) (st : Store × Nat) : Prop :=
  ∃ hub', H hub hub' ∧ (r.toOption, st.1) = out hub'

theorem SettlesTo.after {out : Store → Option Outcome × Store} {r : Except SyncError Outcome}
    {st : Store × Nat} {hub₁ : Store} {a : Address} (hH : Preserves H a) (hh : H hub hub₁)
    (hr : SettlesTo H hub₁ out r st) : SettlesTo H hub out r st := by
  obtain ⟨hub', hh', hr⟩ := hr
  exact ⟨hub', hH.trans _ _ _ hh hh', hr⟩

variable {cluster : ObjectKey}

theorem clusterSecrets_fit (hc : cluster.Valid) :
    Target.Fits 300 (secretsOf cluster.clusterSecret.ns) :=
  secretsOf_fits hc.ns

theorem clusterSecret_fits (hc : cluster.Valid) : Target.Fits 268 cluster.clusterSecret.name := by
  have ht : Target.Fits 15 "-cluster-secret" := by decide
  exact hc.name.fits.append ht

theorem clusterSecret_oneSegment (hc : cluster.Valid) :
    OneSegment cluster.clusterSecret.name := by
  have ht : OneSegment "-cluster-secret" := by decide
  have hn := hc.name.oneSegment
  unfold OneSegment ObjectKey.clusterSecret at *
  simp only [String.toList_append, List.mem_append, not_or]
  exact ⟨hn, ht⟩

theorem clusterSecret_nonempty (cluster : ObjectKey) : cluster.clusterSecret.name ≠ "" := by
  simp [ObjectKey.clusterSecret]

theorem clusterSecret_path (hc : cluster.Valid) :
    Address.ofPath? (secretsOf cluster.clusterSecret.ns ++ "/" ++ cluster.clusterSecret.name)
      = some (secretAt cluster.clusterSecret) :=
  ofPath_secret hc.ns.oneSegment (clusterSecret_oneSegment hc)

theorem deleted_refused {a : Answer} (ha : a.Refuses) :
    ∃ e, a.deleted = .error e ∧ e.isNotFound = false := by
  obtain ⟨e, ht, he, -⟩ := ha
  exact ⟨e, by rw [Answer.deleted, Answer.object, ht]; rfl, he⟩

theorem deleted_notFound (name : String) :
    ∃ e, (Store.notFound name).deleted = .error e ∧ e.isNotFound = true := by
  have hc : 400 ≤ 404 ∧ 404 < 600 := by decide
  have ht := Answer.text_refusal hc "NotFound" (Quoted.quoted name ++ " not found")
  exact ⟨_, by rw [Store.notFound, Answer.deleted, Answer.object, ht]; rfl, rfl⟩

theorem hub_call_settles {β : Type} {r : Request} {read : Answer → Except ClientError β}
    {next : Except ClientError β → Exchange (Except SyncError Outcome)}
    {out : Store → Option Outcome × Store}
    (hrefused : ∀ a hub' j, a.Refuses → (next (read a)).Ensures (honest K H fails) (hub', j)
      fun x st => x.toOption = none ∧ st.1 = hub')
    (hserved : ∀ hub' j, H hub hub' → (next (read (hub'.serve r).1)).Ensures (honest K H fails)
      ((hub'.serve r).2, j) fun x st => (x.toOption, st.1) = out hub') :
    (call .hub (.ok r) read >>= next).Ensures (honest K H fails) (hub, i)
      (SettlesTo H hub fun hub => if fails i then (none, hub) else out hub) := by
  refine Ensures.bind (ensures_call nofun ?_)
  rintro a ⟨hub₁, j⟩ ⟨-, hub', hh, ha⟩
  cases hf : fails i with
  | true =>
    simp only [hf, if_true] at ha ⊢
    obtain ⟨ha, rfl⟩ := ha
    exact (hrefused a hub₁ j ha).mono fun x st hx => ⟨hub₁, hh, Prod.ext hx.1 hx.2⟩
  | false =>
    simp only [hf, Bool.false_eq_true, if_false] at ha ⊢
    obtain ⟨rfl, rfl⟩ := Prod.mk.inj ha
    exact (hserved hub' j hh).mono fun x st hx => ⟨hub', hh, hx⟩

theorem deleteClusterSecret_settles (hc : cluster.Valid) :
    (deleteClusterSecret cluster).Ensures (honest K H fails) (hub, i)
      (SettlesTo H hub fun hub => if fails i then (none, hub)
        else (some .deleted, (hub.delete (secretAt cluster.clusterSecret)).2)) := by
  have hr : Request.delete (secretsOf cluster.clusterSecret.ns) cluster.clusterSecret.name
      = .ok _ :=
    Request.delete_named (clusterSecrets_fit hc) (clusterSecret_fits hc) (by decide)
      (clusterSecret_nonempty cluster)
  unfold deleteClusterSecret
  dsimp only
  rw [hr]
  refine hub_call_settles (fun a hub' j ha => ?_) fun hub' j hh => ?_
  · obtain ⟨e, he, hn⟩ := deleted_refused ha
    simp only [he, hn]
    exact ⟨rfl, rfl⟩
  · rw [Store.serve_delete (clusterSecret_path hc)]
    cases ho : hub'.objects (secretAt cluster.clusterSecret) with
    | none =>
      obtain ⟨e, he, hn⟩ := deleted_notFound (secretAt cluster.clusterSecret).name
      simp only [Store.delete, ho, he, hn]
      exact ensures_info rfl
    | some text =>
      simp only [Store.delete, ho, Store.reply_success]
      exact ensures_info rfl

theorem createClusterSecret_settles (hc : cluster.Valid)
    (hH : Preserves H (secretAt cluster.clusterSecret)) {s : Secret}
    (hn : s.metadata.name = some cluster.clusterSecret.name)
    (ho : hub.objects (secretAt cluster.clusterSecret) = none) :
    (createClusterSecret cluster s).Ensures (honest K H fails) (hub, i)
      (SettlesTo H hub fun hub => if fails i then (none, hub)
        else (some .created, hub.put (secretAt cluster.clusterSecret) (hub.kept s).compact)) := by
  have hr : Request.create (secretsOf cluster.clusterSecret.ns) s.toJson.compact = .ok _ :=
    Request.create_in (clusterSecrets_fit hc) (by decide) _
  unfold createClusterSecret
  dsimp only
  apply ensures_info
  rw [hr]
  refine hub_call_settles (fun a hub' j ha => ?_) fun hub' j hh => ?_
  · obtain ⟨e, he, -⟩ := ha.failed Secret.decode?
    simp only [he]
    exact ⟨rfl, rfl⟩
  · have hp : Collection.ofPath? (secretsOf cluster.clusterSecret.ns)
        = some (.secrets cluster.clusterSecret.ns) := ofPath_secrets hc.ns.oneSegment
    have ho' : hub'.objects (secretAt cluster.clusterSecret) = none := (hH.same _ _ hh).trans ho
    have ht : (Store.reply 201 (hub'.kept s)).object Secret.decode? = .ok _ :=
      Store.reply_secret (by decide) _
    rw [Store.serve_post hp, Store.create_fresh hn ho']
    simp only [ht]
    exact ensures_info rfl

theorem replaceClusterSecret_settles (hc : cluster.Valid)
    (hH : Preserves H (secretAt cluster.clusterSecret)) {s old : Secret}
    (hn : s.metadata.name = some cluster.clusterSecret.name)
    (ho : hub.secret? cluster.clusterSecret = some (some old)) :
    (replaceClusterSecret cluster old s).Ensures (honest K H fails) (hub, i)
      (SettlesTo H hub fun hub => if fails i then (none, hub)
        else (some .updated, hub.put (secretAt cluster.clusterSecret) (hub.kept s).compact)) := by
  unfold replaceClusterSecret
  dsimp only
  generalize hs : ({ s with metadata := { s.metadata with
    resourceVersion := old.metadata.resourceVersion } } : Secret) = s'
  have hr : Request.replace (secretsOf cluster.clusterSecret.ns) cluster.clusterSecret.name
      s'.toJson.compact = .ok _ :=
    Request.replace_named (clusterSecrets_fit hc) (clusterSecret_fits hc) (by decide)
      (clusterSecret_nonempty cluster) _
  rw [hr]
  refine hub_call_settles (fun a hub' j ha => ?_) fun hub' j hh => ?_
  · obtain ⟨e, he, -⟩ := ha.failed Secret.decode?
    simp only [he]
    exact ⟨rfl, rfl⟩
  · obtain ⟨text, ho, ht⟩ := Option.map_eq_some_iff.mp ((hH.find hh _).trans ho)
    have hn' : s'.metadata.name = some cluster.clusterSecret.name := by rw [← hs]; exact hn
    have hv : s'.metadata.resourceVersion = old.metadata.resourceVersion := by rw [← hs]
    -- the version that goes with the write does not stay
    have hk : hub'.kept s' = hub'.kept s := by
      rw [← hs]
      rfl
    have hd : (Store.reply 200 (hub'.kept s')).object Secret.decode? = .ok _ :=
      Store.reply_secret (by decide) _
    have hw : hub'.replace (secretAt cluster.clusterSecret) s'.toJson.compact = _ :=
      Store.replace_current hn' ho ht hv
    rw [Store.serve_put (clusterSecret_path hc), hw]
    simp only [hd]
    refine ensures_info ?_
    rw [← hk]
    rfl

theorem absentAsNone_failed {x : Except ClientError α} (hx : Failed x) :
    ∃ e, absentAsNone x = .error e := by
  obtain ⟨e, rfl, he⟩ := hx
  exact ⟨e, by simp [absentAsNone, he]⟩

theorem absentAsNone_absent {x : Except ClientError α} (hx : Found none x) :
    absentAsNone x = .ok none := by
  cases hx with
  | absent he => simp [absentAsNone, he]

theorem absentAsNone_unreadable {x : Except ClientError α} (hx : Found (some none) x) :
    ∃ e, absentAsNone x = .error e := by
  cases hx with
  | unreadable he => exact absentAsNone_failed ⟨_, rfl, he⟩

theorem absentAsNone_present {v : α} {x : Except ClientError α} (hx : Found (some (some v)) x) :
    absentAsNone x = .ok (some v) := by
  cases hx
  rfl

theorem getClusterSecret_found (hc : cluster.Valid) :
    (getSecret .hub cluster.clusterSecret).Ensures (honest K H fails) (hub, i) fun x st =>
      H hub st.1 ∧ st.2 = i + 1 ∧ (fails i = true ∧ Failed x ∨
        fails i = false ∧ Found (st.1.secret? cluster.clusterSecret) x) := by
  have hr : Request.get (secretsOf cluster.clusterSecret.ns) cluster.clusterSecret.name = .ok _ :=
    Request.get_named (clusterSecrets_fit hc) (clusterSecret_fits hc) (by decide)
      (clusterSecret_nonempty cluster)
  rw [getSecret, hr]
  exact read_hub (clusterSecret_path hc)

def applied (cluster : ObjectKey) (s : Secret) (hub : Store) : Option Outcome × Store :=
  match hub.secret? cluster.clusterSecret with
  | none => (some .created, hub.put (secretAt cluster.clusterSecret) (hub.kept s).compact)
  | some none => (none, hub)
  | some (some _) => (some .updated, hub.put (secretAt cluster.clusterSecret) (hub.kept s).compact)

theorem applyClusterSecret_settles (hc : cluster.Valid)
    (hH : Preserves H (secretAt cluster.clusterSecret)) {s : Secret}
    (hn : s.metadata.name = some cluster.clusterSecret.name) :
    (applyClusterSecret cluster s).Ensures (honest K H fails) (hub, i)
      (SettlesTo H hub fun hub =>
        if fails i || fails (i + 1) then (none, hub) else applied cluster s hub) := by
  unfold applyClusterSecret
  apply (getClusterSecret_found hc).then
  rintro x ⟨hub₁, j⟩ ⟨hh, rfl, hx⟩
  obtain ⟨hf, hx⟩ | ⟨hf, hx⟩ := hx
  · obtain ⟨e, he⟩ := absentAsNone_failed hx
    simp only [he, hf, Bool.true_or, if_true]
    exact ⟨hub₁, hh, rfl⟩
  · simp only [hf, Bool.false_or]
    have hsame : ∀ hub', H hub₁ hub' →
        hub'.secret? cluster.clusterSecret = hub₁.secret? cluster.clusterSecret :=
      fun hub' hh' => hH.find hh' _
    generalize ho : hub₁.secret? cluster.clusterSecret = o at hx hsame
    match o with
    | none =>
      simp only [absentAsNone_absent hx]
      refine (createClusterSecret_settles hc hH hn
        (by simpa [Store.secret?, Store.find] using ho)).mono ?_
      rintro r st ⟨hub', hh', hr⟩
      refine ⟨hub', hH.trans _ _ _ hh hh', hr.trans ?_⟩
      simp only [applied, hsame hub' hh']
    | some none =>
      obtain ⟨e, he⟩ := absentAsNone_unreadable hx
      simp only [he]
      exact ⟨hub₁, hh, by simp only [applied, ho, ite_self]; rfl⟩
    | some (some old) =>
      simp only [absentAsNone_present hx]
      apply (replaceClusterSecret_settles hc hH hn ho).mono
      rintro r st ⟨hub', hh', hr⟩
      refine ⟨hub', hH.trans _ _ _ hh hh', hr.trans ?_⟩
      simp only [applied, hsame hub' hh']

theorem logAll_ensures {ls : List LogLine} {β : Type} {g : Unit → Exchange β}
    {Q : β → Store × Nat → Prop} {st : Store × Nat}
    (hg : (g ()).Ensures (honest K H fails) st Q) :
    (logAll ls >>= g).Ensures (honest K H fails) st Q := by
  induction ls with
  | nil => exact hg
  | cons l ls ih => exact ih

theorem build_name (cluster : ObjectKey) (t server : String) :
    (ClusterSecret.build cluster t server).2.metadata.name = some cluster.clusterSecret.name :=
  rfl

theorem write_settles (hc : cluster.Valid) (hH : Preserves H (secretAt cluster.clusterSecret))
    (t server : String) :
    (logAll (ClusterSecret.build cluster t server).1 >>= fun _ =>
      applyClusterSecret cluster (ClusterSecret.build cluster t server).2).Ensures
      (honest K H fails) (hub, i) (SettlesTo H hub fun hub =>
        if fails i || fails (i + 1) then (none, hub) else written cluster hub t server) :=
  logAll_ensures (applyClusterSecret_settles hc hH (build_name cluster t server))

theorem publish_settles (hc : cluster.Valid) (hH : Preserves H (secretAt cluster.clusterSecret))
    (hs : Sources K key account token address) :
    (Exchange.publish cluster).Ensures (honest K H fails) (hub, 1) (SettlesTo H hub fun hub =>
      match token with
      | none => (none, hub)
      | some t =>
        if fails 1 || fails 2 || fails 4 || fails 5 then (none, hub)
        else written cluster hub t (if fails 3 then "" else address)) := by
  unfold Exchange.publish
  apply (token_found hH hs).then
  rintro x ⟨hub₁, j⟩ ⟨hh, hx⟩
  cases x with
  | error e =>
    refine ⟨hub₁, hh, ?_⟩
    obtain rfl | hf | hf := hx
    · rfl
    · cases token <;> simp only [hf, Bool.true_or, if_true] <;> rfl
    · cases token <;> simp only [hf, Bool.true_or, Bool.or_true, if_true] <;> rfl
  | ok t =>
    obtain ⟨rfl, rfl, hf, hg⟩ := hx
    simp only [hf, hg, Bool.false_or]
    apply serverAddress_found.then
    rintro y ⟨hub₂, j⟩ ⟨hh', rfl, hy⟩
    have hp : published y = if fails 3 then "" else address := by
      obtain ⟨hf, hp⟩ | ⟨hf, c, hc, hp⟩ := hy
      · rw [hf, hp]
        rfl
      · rw [hf, hp, hs.address _ c hc]
        rfl
    rw [← hp]
    have hh := hH.trans _ _ _ hh hh'
    cases y with
    | ok a => exact (write_settles hc hH t a).mono fun r st hr => hr.after hH hh
    | error e =>
      exact ensures_error ((write_settles hc hH t "").mono fun r st hr => hr.after hH hh)

/-- A reconciliation comes, request by request, to what `settle` says at once. -/
theorem reconcile_settles (hc : cluster.Valid) (hk : key.Valid)
    (hH : Preserves H (secretAt cluster.clusterSecret))
    (hs : Sources K key account token address) :
    (reconcile cluster key).Ensures (honest K H fails) (hub, 0)
      (SettlesTo H hub (settle cluster account token address fails)) := by
  unfold reconcile
  apply ensures_info
  apply (getServiceAccount_found key hk).then
  rintro x ⟨hub₁, j⟩ ⟨hh, rfl, hx⟩
  unfold settle
  obtain ⟨hf, hx⟩ | ⟨hf, c, hcK, hx⟩ := hx
  · obtain ⟨e, he⟩ := absentAsNone_failed hx
    simp only [he, hf, if_true]
    exact ⟨hub₁, hh, rfl⟩
  · rw [hs.account c hcK] at hx
    simp only [hf, Bool.false_eq_true, if_false]
    have hp : (Exchange.publish cluster).Ensures (honest K H fails) (hub₁, 1) _ :=
      publish_settles hc hH hs
    generalize account = o at hx ⊢
    match o, hx with
    | none, hx =>
      simp only [absentAsNone_absent hx]
      exact ensures_info ((deleteClusterSecret_settles hc).mono fun r st hr => hr.after hH hh)
    | some none, hx =>
      obtain ⟨e, he⟩ := absentAsNone_unreadable hx
      simp only [he]
      exact ⟨hub₁, hh, rfl⟩
    | some (some sa), hx =>
      simp only [absentAsNone_present hx]
      refine hp.mono fun r st hr => ?_
      have hr := hr.after hH hh
      cases token with
      | none => exact hr
      | some t => exact hr

end Exchange

end TokenCourier
