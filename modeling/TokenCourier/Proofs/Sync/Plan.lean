import TokenCourier.Proofs.Sync.Bearer

namespace TokenCourier

/-- What is to be done about the hub's secret. -/
inductive Plan where
  | fails (e : SyncError)
  | departs
  | delivers (s : Secret)

namespace Exchange

variable (cluster key : ObjectKey)

def prepare : Exchange (Except SyncError Secret) := do
  match ← bearerToken with
  | .error e => return .error e
  | .ok t =>
    let server ← addressed
    logAll (ClusterSecret.build cluster t server).1
    return .ok (ClusterSecret.build cluster t server).2

def plan : Exchange Plan := do
  info s!"Reconciling {key}"
  match absentAsNone (← getServiceAccount .cluster key) with
  | .error e => return .fails (.client e)
  | .ok none =>
    info s!"{key} is not found. Deleting the secret from the hub."
    return .departs
  | .ok (some _) =>
    match ← prepare cluster with
    | .error e => return .fails e
    | .ok s => return .delivers s

def carryOut : Plan → Exchange (Except SyncError Outcome)
  | .fails e => return .error e
  | .departs => deleteClusterSecret cluster
  | .delivers s => applyClusterSecret cluster s

theorem publish_prepare :
    publish cluster = prepare cluster >>= fun
      | .error e => pure (.error e)
      | .ok s => applyClusterSecret cluster s := by
  rw [publish_bearer, prepare, bind_assoc]
  congr 1
  funext x
  cases x with
  | error e => rfl
  | ok t =>
    simp only [bind_assoc, pure_bind]
    rfl

theorem reconcile_plan : reconcile cluster key = plan cluster key >>= carryOut cluster := by
  unfold reconcile plan
  rw [bind_assoc]
  congr 1
  funext _
  rw [bind_assoc]
  congr 1
  funext x
  cases absentAsNone x with
  | error e => rfl
  | ok o =>
    cases o with
    | none => rfl
    | some sa =>
      dsimp only
      rw [publish_prepare, bind_assoc]
      congr 1
      funext y
      cases y <;> rfl

def Only (s : Server) (qs : List Asked) : Prop := ∀ q ∈ qs, q.server = s

theorem addressed_yields : addressed.Yields fun qs _ => Only .cluster qs := by
  unfold addressed
  refine serverAddress_yields.bind ?_
  rintro qs x ⟨y, hy, -⟩
  have hq : Only .cluster qs := fun q hm => (hy.asks q hm).1
  cases x with
  | ok a => exact yields_done (by simpa using hq)
  | error e => exact yields_error (yields_done (by simpa using hq))

theorem bearerToken_yields : bearerToken.Yields fun qs _ => Only .cluster qs := by
  refine token_yields.bind ?_
  intro qs x hx
  refine yields_done ?_
  rw [List.append_nil]
  exact fun q hq => (hx.gets q hq).1

/-- The secret is made of a token and an address, and of nothing that the hub says. -/
theorem prepare_yields :
    (prepare cluster).Yields fun qs x => Only .cluster qs ∧
      ∀ s, x = .ok s → ∃ t server, s = (ClusterSecret.build cluster t server).2 := by
  refine bearerToken_yields.bind ?_
  intro qs x hq
  cases x with
  | error e => exact yields_done ⟨by simpa using hq, nofun⟩
  | ok t =>
    refine addressed_yields.bind ?_
    intro ps server hp
    refine yields_logAll (yields_done ⟨?_, ?_⟩)
    · rw [List.append_nil]
      exact List.forall_mem_append.mpr ⟨hq, hp⟩
    · rintro s ⟨⟩
      exact ⟨t, server, rfl⟩

theorem plan_yields : (plan cluster key).Yields fun qs _ => Only .cluster qs := by
  refine yields_info ?_
  refine (yields_call _ _ _).bind ?_
  intro qs x hx
  have hq : Only .cluster qs := fun q hm => (hx.asks q hm).1
  cases absentAsNone x with
  | error e => exact yields_done (by simpa using hq)
  | ok o =>
    cases o with
    | none => exact yields_info (yields_done (by simpa using hq))
    | some sa =>
      refine (prepare_yields cluster).bind ?_
      rintro ps y ⟨hp, -⟩
      have hqp : Only .cluster (qs ++ ps) := List.forall_mem_append.mpr ⟨hq, hp⟩
      cases y <;> exact yields_done (by simpa using hqp)

theorem Delivery.only {cluster : ObjectKey} {s : Secret} {qs : List Asked}
    {r : Except SyncError Outcome} (h : Delivery cluster s qs r) : Only .hub qs := by
  cases h with
  | unread hx => exact fun q hq => (hx.asks q hq).1
  | creates hx _ hy | replaces hx _ hy =>
    exact List.forall_mem_append.mpr ⟨fun q hq => (hx.asks q hq).1, fun q hq => (hy.asks q hq).1⟩

theorem carryOut_yields (p : Plan) : (carryOut cluster p).Yields fun qs _ => Only .hub qs := by
  cases p with
  | fails e => exact yields_done nofun
  | departs =>
    refine (deleteClusterSecret_yields cluster).mono ?_
    rintro qs r ⟨y, hy, -⟩
    exact fun q hq => (hy.asks q hq).1
  | delivers s => exact (applyClusterSecret_yields cluster s).mono fun qs r hd => hd.only

end Exchange

end TokenCourier
