import Mathlib
import TokenCourier.Controller

namespace TokenCourier

namespace Config

variable {lookup : String → Option String} {c : Config} {n : Nat}

def flagOf (lookup : String → Option String) : Except ConfigError Bool :=
  match lookup "STANDALONE" with
  | none => .ok false
  | some v => (flag? v).elim (.error (.standalone v)) .ok

def secondsOf (lookup : String → Option String) : Except ConfigError Nat :=
  match lookup "RESYNC_INTERVAL_SECS" with
  | none => .ok defaultResync
  | some v =>
    match Decimal.read maxSeconds v with
    | .ok n => if n = 0 then .error .resyncZero else .ok n
    | .error f => .error (.resync v f)

def built (lookup : String → Option String) (standalone : Bool) (name : String) (resync : Nat) :
    Config where
  cluster := ⟨name, (lookup "CLUSTER_NAMESPACE").getD name⟩
  hubKubeconfig := lookup "HUB_KUBECONFIG"
  standalone
  watched := ⟨(lookup "WATCH_SERVICE_ACCOUNT_NAME").getD defaultWatched.name,
    (lookup "WATCH_SERVICE_ACCOUNT_NAMESPACE").getD defaultWatched.ns⟩
  resyncSeconds := resync

theorem load_eq (lookup : String → Option String) : load lookup =
    match flagOf lookup with
    | .error e => .error e
    | .ok b =>
      match lookup "CLUSTER_NAME" with
      | none => .error .noName
      | some name =>
        if lookup "HUB_KUBECONFIG" = none ∧ !b then .error .noHubKubeconfig
        else (secondsOf lookup).map (built lookup b name) := by
  unfold load flagOf
  extract_lets hub afterFlag
  have hb : ∀ b, afterFlag b = match lookup "CLUSTER_NAME" with
      | none => .error .noName
      | some name =>
        if lookup "HUB_KUBECONFIG" = none ∧ !b then .error .noHubKubeconfig
        else (secondsOf lookup).map (built lookup b name) := by
    intro b
    dsimp only [afterFlag, hub]
    cases lookup "CLUSTER_NAME" with
    | none => rfl
    | some name =>
      by_cases hh : lookup "HUB_KUBECONFIG" = none ∧ !b
      · simp only [Option.elim_some, pure_bind, if_pos hh]
        rfl
      · simp only [Option.elim_some, pure_bind, if_neg hh, secondsOf]
        cases lookup "RESYNC_INTERVAL_SECS" with
        | none => rfl
        | some v =>
          dsimp only
          cases Decimal.read maxSeconds v with
          | error f => rfl
          | ok n => cases n <;> rfl
  cases lookup "STANDALONE" with
  | none => exact hb false
  | some v =>
    dsimp only
    cases flag? v with
    | none => rfl
    | some b => exact hb b

def environment (cluster : ObjectKey) (resync : String) : String → Option String
  | "CLUSTER_NAME" => some cluster.name
  | "CLUSTER_NAMESPACE" => some cluster.ns
  | "HUB_KUBECONFIG" => some "/etc/hub/kubeconfig"
  | "WATCH_SERVICE_ACCOUNT_NAME" => some "agent"
  | "WATCH_SERVICE_ACCOUNT_NAMESPACE" => some "addon"
  | "RESYNC_INTERVAL_SECS" => some resync
  | _ => none

def ofEnvironment (cluster : ObjectKey) (resyncSeconds : Nat) : Config where
  cluster
  hubKubeconfig := some "/etc/hub/kubeconfig"
  standalone := false
  watched := ⟨"agent", "addon"⟩
  resyncSeconds

variable {resync : String}

theorem load_environment (cluster : ObjectKey) (hr : Decimal.read maxSeconds resync = .ok n)
    (hn : n ≠ 0) : load (environment cluster resync) = .ok (ofEnvironment cluster n) := by
  simp only [load, environment, String.reduceEq, imp_self, Option.elim_some, reduceCtorEq,
    false_and, ↓reduceIte, hr, Option.getD_some, pure_bind, hn]
  rfl

/-- Every key is the cluster of some configuration. -/
theorem cluster_accepted (cluster : ObjectKey) :
    ∃ lookup c, load lookup = .ok c ∧ c.cluster = cluster :=
  ⟨environment cluster "3600", ofEnvironment cluster 3600,
    load_environment cluster (by decide) (by decide), rfl⟩

def manager (c : Config) (hub : Connection) : Manager :=
  (((Controller.ofHub hub c.cluster).watching c.watched).resyncEvery c.resyncSeconds).manager

end Config

end TokenCourier
