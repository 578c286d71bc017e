import TokenCourier.Sync.Reconcile
import TokenCourier.Proofs.Api.Dialogue

namespace TokenCourier

namespace Write

def outcome : Write → Outcome
  | .create => .created
  | .update => .updated
  | .delete => .deleted

variable {α : Type}

def result (w : Write) (cluster : ObjectKey) : Except ClientError α → Except SyncError Outcome
  | .ok _ => .ok w.outcome
  | .error e => .error (.write w (toString cluster.clusterSecret) e)

end Write

/-- What a deletion comes to. There is nothing to delete if the secret is not there. -/
def departure (cluster : ObjectKey) : Except ClientError Unit → Except SyncError Outcome
  | .ok _ => .ok .deleted
  | .error e =>
    if e.isNotFound then .ok .deleted else Write.delete.result (α := Unit) cluster (.error e)

def addressOf (x : Except ClientError Infrastructure) : String :=
  (x.toOption.bind (·.apiServerURL?)).getD ""

namespace Secret

def replacing (s current : Secret) : Secret :=
  { s with metadata := { s.metadata with resourceVersion := current.metadata.resourceVersion } }

end Secret

namespace Exchange

abbrev AccountRead (s : Server) (key : ObjectKey) :=
  Called s (Request.get (serviceAccountsOf key.ns) key.name) (·.object ServiceAccount.decode?)

abbrev SecretRead (s : Server) (key : ObjectKey) :=
  Called s (Request.get (secretsOf key.ns) key.name) (·.object Secret.decode?)

abbrev InfrastructureRead :=
  Called .cluster (Request.get (Infrastructure.collectionPath none) "cluster")
    (·.object Infrastructure.decode?)

inductive Search : List Asked → Except TokenCause String → Prop where
  | serviceAccount {qs e} : AccountRead .cluster tokenAccount qs (.error e) →
      Search qs (.error (.serviceAccount e))
  | noSecret {qs sa} : AccountRead .cluster tokenAccount qs (.ok sa) → sa.dockercfg? = none →
      Search qs (.error .noSecret)
  | secret {qs ps sa name e} : AccountRead .cluster tokenAccount qs (.ok sa) →
      sa.dockercfg? = some name → SecretRead .cluster ⟨name, tokenAccount.ns⟩ ps (.error e) →
      Search (qs ++ ps) (.error (.secret name e))
  | noValue {qs ps sa name s} : AccountRead .cluster tokenAccount qs (.ok sa) →
      sa.dockercfg? = some name → SecretRead .cluster ⟨name, tokenAccount.ns⟩ ps (.ok s) →
      s.token? = none → Search (qs ++ ps) (.error (.noValue name))
  | found {qs ps sa name s t} : AccountRead .cluster tokenAccount qs (.ok sa) →
      sa.dockercfg? = some name → SecretRead .cluster ⟨name, tokenAccount.ns⟩ ps (.ok s) →
      s.token? = some t → Search (qs ++ ps) (.ok t)

inductive Delivery (cluster : ObjectKey) (s : Secret) :
    List Asked → Except SyncError Outcome → Prop where
  | unread {qs x e} : SecretRead .hub cluster.clusterSecret qs x → absentAsNone x = .error e →
      Delivery cluster s qs (.error (.client e))
  | creates {qs x ps y} : SecretRead .hub cluster.clusterSecret qs x →
      absentAsNone x = .ok none →
      Called .hub (Request.create (secretsOf cluster.clusterSecret.ns) s.toJson.compact)
        (·.object Secret.decode?) ps y →
      Delivery cluster s (qs ++ ps) (Write.create.result cluster y)
  | replaces {qs x current ps y} : SecretRead .hub cluster.clusterSecret qs x →
      absentAsNone x = .ok (some current) →
      Called .hub (Request.replace (secretsOf cluster.clusterSecret.ns) cluster.clusterSecret.name
        (s.replacing current).toJson.compact) (·.object Secret.decode?) ps y →
      Delivery cluster s (qs ++ ps) (Write.update.result cluster y)

inductive Course (cluster key : ObjectKey) : List Asked → Except SyncError Outcome → Prop where
  | unread {qs x e} : AccountRead .cluster key qs x → absentAsNone x = .error e →
      Course cluster key qs (.error (.client e))
  | departs {qs x ps y} : AccountRead .cluster key qs x → absentAsNone x = .ok none →
      Called .hub (Request.delete (secretsOf cluster.clusterSecret.ns) cluster.clusterSecret.name)
        Answer.deleted ps y →
      Course cluster key (qs ++ ps) (departure cluster y)
  | unresolved {qs x sa ps c} : AccountRead .cluster key qs x → absentAsNone x = .ok (some sa) →
      Search ps (.error c) → Course cluster key (qs ++ ps) (.error (.tokenNotFound c.message))
  | publishes {qs x sa ps t us y ws r} : AccountRead .cluster key qs x →
      absentAsNone x = .ok (some sa) → Search ps (.ok t) → InfrastructureRead us y →
      Delivery cluster (ClusterSecret.build cluster t (addressOf y)).2 ws r →
      Course cluster key (qs ++ (ps ++ us) ++ ws) r

variable (cluster key : ObjectKey)

theorem deleteClusterSecret_yields :
    (deleteClusterSecret cluster).Yields fun qs r => ∃ y,
      Called .hub (Request.delete (secretsOf cluster.clusterSecret.ns) cluster.clusterSecret.name)
        Answer.deleted qs y ∧ r = departure cluster y := by
  unfold deleteClusterSecret
  dsimp only
  refine (yields_call _ _ _).bind ?_
  intro qs y hy
  cases y with
  | ok u => exact yields_info (yields_done ⟨_, by simpa using hy, rfl⟩)
  | error e =>
    dsimp only
    split
    · next he => exact yields_info (yields_done ⟨_, by simpa using hy, by simp [departure, he]⟩)
    · next he => exact yields_done ⟨_, by simpa using hy, by simp [departure, he, Write.result]⟩

theorem createClusterSecret_yields (s : Secret) :
    (createClusterSecret cluster s).Yields fun qs r => ∃ y,
      Called .hub (Request.create (secretsOf cluster.clusterSecret.ns) s.toJson.compact)
        (·.object Secret.decode?) qs y ∧ r = Write.create.result cluster y := by
  unfold createClusterSecret
  refine yields_info ?_
  refine (yields_call _ _ _).bind ?_
  intro qs y hy
  cases y with
  | ok v => exact yields_info (yields_done ⟨_, by simpa using hy, rfl⟩)
  | error e => exact yields_done ⟨_, by simpa using hy, rfl⟩

theorem replaceClusterSecret_yields (current s : Secret) :
    (replaceClusterSecret cluster current s).Yields fun qs r => ∃ y,
      Called .hub (Request.replace (secretsOf cluster.clusterSecret.ns) cluster.clusterSecret.name
        (s.replacing current).toJson.compact) (·.object Secret.decode?) qs y ∧
      r = Write.update.result cluster y := by
  unfold replaceClusterSecret
  refine (yields_call _ _ _).bind ?_
  intro qs y hy
  cases y with
  | ok v => exact yields_info (yields_done ⟨_, by rwa [List.append_nil], rfl⟩)
  | error e => exact yields_done ⟨_, by rwa [List.append_nil], rfl⟩

theorem applyClusterSecret_yields (s : Secret) :
    (applyClusterSecret cluster s).Yields (Delivery cluster s) := by
  unfold applyClusterSecret
  refine (yields_call _ _ _).bind ?_
  intro qs x hx
  cases ha : absentAsNone x with
  | error e => exact yields_done (by simpa using .unread hx ha)
  | ok o =>
    cases o with
    | none =>
      refine (createClusterSecret_yields cluster s).mono ?_
      rintro ps r ⟨y, hy, rfl⟩
      exact .creates hx ha hy
    | some current =>
      refine (replaceClusterSecret_yields cluster current s).mono ?_
      rintro ps r ⟨y, hy, rfl⟩
      exact .replaces hx ha hy

theorem token_yields : token.Yields Search := by
  unfold token
  refine (yields_call _ _ _).bind ?_
  intro qs x hx
  cases x with
  | error e => exact yields_done (by simpa using .serviceAccount hx)
  | ok sa =>
    cases hd : sa.dockercfg? with
    | none =>
      simp only [hd]
      exact yields_done (by simpa using .noSecret hx hd)
    | some name =>
      simp only [hd]
      refine yields_info ?_
      refine (yields_call _ _ _).bind ?_
      intro ps y hy
      cases y with
      | error e => exact yields_done (by simpa using .secret hx hd hy)
      | ok s =>
        cases ht : s.token? with
        | none =>
          simp only [ht]
          have hc : Search (qs ++ (ps ++ [])) (.error (.noValue name)) := by
            simpa using .noValue hx hd hy ht
          cases s.annotation? tokenName with
          | none => exact yields_done hc
          | some n => exact yields_info (yields_done hc)
        | some t =>
          simp only [ht]
          have hc : Search (qs ++ (ps ++ [])) (.ok t) := by simpa using .found hx hd hy ht
          cases s.annotation? tokenName with
          | none => exact yields_done hc
          | some n => exact yields_info (yields_done hc)

theorem serverAddress_yields :
    serverAddress.Yields fun qs x => ∃ y, InfrastructureRead qs y ∧
      addressOf y = match x with
        | .ok a => a
        | .error _ => "" := by
  unfold serverAddress
  refine (yields_call _ _ _).bind ?_
  intro qs y hy
  cases y with
  | error e => exact yields_done ⟨_, by simpa using hy, rfl⟩
  | ok i => exact yields_done ⟨_, by simpa using hy, rfl⟩

theorem yields_logAll {β : Type} {D : List Asked → β → Prop} {ls : List LogLine}
    {f : Unit → Exchange β} (hf : (f ()).Yields D) : (logAll ls >>= f).Yields D := by
  induction ls with
  | nil => exact hf
  | cons l ls ih => exact yields_log ih

/-- Every reconciliation takes one of the courses. -/
theorem reconcile_yields : (reconcile cluster key).Yields (Course cluster key) := by
  unfold reconcile
  refine yields_info ?_
  refine (yields_call _ _ _).bind ?_
  intro qs x hx
  cases ha : absentAsNone x with
  | error e => exact yields_done (by simpa using .unread hx ha)
  | ok o =>
    cases o with
    | none =>
      refine yields_info ?_
      refine (deleteClusterSecret_yields cluster).mono ?_
      rintro ps r ⟨y, hy, rfl⟩
      exact .departs hx ha hy
    | some sa =>
      change (publish cluster).Yields _
      unfold publish
      refine token_yields.bind ?_
      intro ps z hz
      cases z with
      | error c => exact yields_done (by simpa using .unresolved hx ha hz)
      | ok t =>
        refine serverAddress_yields.bind ?_
        rintro us y ⟨i, hi, hy⟩
        have hw : (logAll (ClusterSecret.build cluster t (addressOf i)).1 >>= fun _ =>
            applyClusterSecret cluster (ClusterSecret.build cluster t (addressOf i)).2).Yields
            fun ws r => Course cluster key (qs ++ (ps ++ (us ++ ws))) r :=
          yields_logAll ((applyClusterSecret_yields cluster _).mono fun ws r hr =>
            by simpa using Course.publishes hx ha hz hi hr)
        cases y with
        | ok a =>
          rw [hy] at hw
          exact hw
        | error e =>
          rw [hy] at hw
          exact yields_error hw

end Exchange

end TokenCourier
