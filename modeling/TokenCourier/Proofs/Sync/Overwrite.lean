import TokenCourier.Proofs.Store.Rewrites
import TokenCourier.Proofs.Sync.Apart
import TokenCourier.Proofs.Sync.Payload
import TokenCourier.Proofs.Sync.Plan

namespace TokenCourier

open Json Exchange

def versionPath : List String := ["metadata", "resourceVersion"]

/-- An object but for its version. -/
def unversioned (v : Json) : Json := amend ["metadata"] (without "resourceVersion") v

def Ends (qs : List Asked) (g : Asked) (req : Except RequestFault Request) : Prop :=
  match req with
  | .error _ => ∃ ps, qs = ps ++ [g]
  | .ok r => ∃ ps a, qs = ps ++ [g, ⟨.hub, r, a⟩]

theorem Ends.append {qs : List Asked} {g : Asked} {req : Except RequestFault Request}
    (h : Ends qs g req) (ps : List Asked) : Ends (ps ++ qs) g req := by
  cases req with
  | error e =>
    obtain ⟨us, rfl⟩ := h
    exact ⟨ps ++ us, (List.append_assoc ..).symm⟩
  | ok r =>
    obtain ⟨us, a, rfl⟩ := h
    exact ⟨ps ++ us, a, (List.append_assoc ..).symm⟩

def repliesOf (s : Server) (qs : List Asked) : List Answer :=
  (qs.filter (·.server = s)).map (·.answer)

structure Asked.ReadsHub (g : Asked) : Prop where
  server : g.server = .hub
  method : g.request.method = .get

namespace Exchange

variable {cluster key key' : ObjectKey} {s s' current : Secret} {g : Asked} {qs : List Asked}
  {ss ts : List Said} {r : Except SyncError Outcome}

section Deliveries

theorem Called.ends {α : Type} {req : Except RequestFault Request}
    {read : Answer → Except ClientError α} {ps : List Asked} {y : Except ClientError α} {g' : Asked}
    (h : Called .hub req read ps y) (hr : ∀ r, req = .ok r → r.method ≠ .get)
    (hg : g ∈ [g'] ++ ps) (hm : g.request.method = .get) : g = g' ∧ Ends ([g'] ++ ps) g req := by
  have he : g = g' := by
    obtain hg | hg := List.mem_append.mp hg
    · exact List.mem_singleton.mp hg
    · exact absurd hm (hr _ (h.asks g hg).2)
  refine ⟨he, ?_⟩
  rw [he]
  cases h with
  | unbuilt hf =>
    rw [hf]
    exact ⟨[], rfl⟩
  | answered a hf =>
    rw [hf]
    exact ⟨[], a, rfl⟩

theorem create_posts {collection body : String} (r : Request)
    (h : Request.create collection body = .ok r) : r.method ≠ .get := by
  rw [(Request.build_ok h).1]
  decide

theorem replace_puts {collection name body : String} (r : Request)
    (h : Request.replace collection name body = .ok r) : r.method ≠ .get := by
  rw [(Request.buildNamed_ok h).1]
  decide

theorem Delivery.made (h : Delivery cluster s qs r) (hg : g ∈ qs) (hm : g.request.method = .get)
    (ha : g.answer.Absent) :
    Ends qs g (Request.create (secretsOf cluster.clusterSecret.ns) s.toJson.compact) := by
  cases h with
  | unread hx he =>
    obtain rfl | ⟨q, rfl, -, hn⟩ := hx.read_error he
    · cases hg
    · obtain rfl := List.mem_singleton.mp hg
      exact absurd ha hn
  | creates hx hn hy =>
    obtain ⟨q, rfl, -⟩ := hx.read_absent hn
    exact (hy.ends create_posts hg hm).2
  | replaces hx ho hy =>
    obtain rfl := absentAsNone_some ho
    obtain ⟨q, rfl, -, hq⟩ := hx.read_ok
    obtain ⟨rfl, -⟩ := hy.ends replace_puts hg hm
    have hn := absentAsNone_none (f := Secret.decode?).mpr ha
    rw [hq] at hn
    cases hn

theorem Delivery.remade (h : Delivery cluster s qs r) (hg : g ∈ qs)
    (hm : g.request.method = .get) (ho : g.answer.object Secret.decode? = .ok current) :
    Ends qs g (Request.replace (secretsOf cluster.clusterSecret.ns) cluster.clusterSecret.name
      (s.replacing current).toJson.compact) := by
  cases h with
  | unread hx he =>
    cases hx with
    | unbuilt => cases hg
    | answered a =>
      obtain rfl := List.mem_singleton.mp hg
      rw [ho] at he
      cases he
  | creates hx hn hy =>
    obtain ⟨q, rfl, -, ha⟩ := hx.read_absent hn
    obtain ⟨rfl, -⟩ := hy.ends create_posts hg hm
    have hn := absentAsNone_none (f := Secret.decode?).mpr ha
    rw [ho] at hn
    cases hn
  | replaces hx hc hy =>
    obtain rfl := absentAsNone_some hc
    obtain ⟨q, rfl, -, hq⟩ := hx.read_ok
    obtain ⟨rfl, he⟩ := hy.ends replace_puts hg hm
    cases hq.symm.trans ho
    exact he

end Deliveries

section Plans

theorem reconcile_delivers (h : (reconcile cluster key).RunsTo ss (.done r)) (hg : g ∈ calls ss)
    (hh : g.ReadsHub) : ∃ s ts us, (plan cluster key).RunsTo ts (.done (.delivers s)) ∧
      calls ss = calls ts ++ us ∧ repliesOf .cluster (calls ss) = (calls ts).map (·.answer) ∧
      g ∈ us ∧ Delivery cluster s us r := by
  rw [reconcile_plan] at h
  obtain ⟨ts, p, us, rfl, hp, hc⟩ := runsTo_bind h
  have ht := plan_yields cluster key ts p hp
  have hu := carryOut_yields cluster p us r hc
  have hr : repliesOf .cluster (calls (ts ++ us)) = (calls ts).map (·.answer) := by
    have hn : (calls us).filter (·.server = .cluster) = [] := by
      rw [List.filter_eq_nil_iff]
      intro q hq
      simp [hu q hq]
    rw [repliesOf, calls_append, List.filter_append, hn, List.append_nil,
      List.filter_eq_self.mpr fun q hq => decide_eq_true (ht q hq)]
  rw [calls_append] at hg
  have hgu : g ∈ calls us := by
    refine (List.mem_append.mp hg).resolve_left fun hq => ?_
    cases (ht g hq).symm.trans hh.server
  cases p with
  | fails e =>
    cases hc
    cases hgu
  | departs =>
    obtain ⟨y, hy, -⟩ := deleteClusterSecret_yields cluster us r hc
    have hm := (Request.buildNamed_ok (hy.asks g hgu).2).1
    cases hm.symm.trans hh.method
  | delivers s =>
    have hd := applyClusterSecret_yields cluster s us r hc
    exact ⟨s, ts, calls us, hp, calls_append ts us, hr, hgu, hd⟩

/-- The secret is prepared after the service account was found, whichever that is. -/
theorem plan_prepares (h : (plan cluster key).RunsTo ts (.done (.delivers s))) :
    ∃ q us, calls ts = q :: calls us ∧ (prepare cluster).RunsTo us (.done (.ok s)) := by
  obtain ⟨ls, u, ts, rfl, hl, h⟩ := runsTo_bind h
  have hl : calls ls = [] := by
    cases hl with
    | log hl =>
      cases hl
      rfl
  rw [calls_append, hl, List.nil_append]
  obtain ⟨vs, x, us, rfl, hv, h⟩ := runsTo_bind h
  have hc := yields_call _ _ _ vs x hv
  cases ha : absentAsNone x with
  | error e =>
    rw [ha] at h
    cases h
  | ok o =>
    rw [ha] at h
    cases o with
    | none =>
      cases h with
      | log h => cases h
    | some sa =>
      obtain rfl := absentAsNone_some ha
      obtain ⟨q, hq, -⟩ := hc.read_ok
      obtain ⟨ws, y, us, rfl, hp, h⟩ := runsTo_bind h
      cases y with
      | error e => cases h
      | ok s' =>
        cases h
        rw [List.append_nil, calls_append, hq]
        exact ⟨q, ws, rfl, hp⟩

theorem plans_alike (h : (plan cluster key).RunsTo ss (.done (.delivers s)))
    (h' : (plan cluster key').RunsTo ts (.done (.delivers s')))
    (ha : (calls ss).map (·.answer) = (calls ts).map (·.answer)) :
    s = s' ∧ ∃ t server, s = (ClusterSecret.build cluster t server).2 := by
  obtain ⟨q, us, hc, hp⟩ := plan_prepares h
  obtain ⟨q', us', hc', hp'⟩ := plan_prepares h'
  rw [hc, hc', List.map_cons, List.map_cons] at ha
  have hs := hp.determined hp' (List.cons.inj ha).2
  exact ⟨Except.ok.inj hs, (prepare_yields cluster us _ hp).2 s rfl⟩

end Plans

end Exchange

section Bodies

variable (cluster : ObjectKey) (t server : String) (current : Secret)

theorem build_eq : (ClusterSecret.build cluster t server).2 =
    { metadata :=
        { name := some cluster.clusterSecret.name
          ns := some cluster.ns
          labels := some (ClusterSecret.labels cluster (ClusterSecret.serverLabel server).2) }
      stringData := some (ClusterSecret.content cluster t server) } :=
  rfl

theorem made_unversioned :
    (ClusterSecret.build cluster t server).2.toJson.at? versionPath = none := by
  rw [build_eq]
  generalize (ClusterSecret.serverLabel server).2 = host
  cases host <;> rfl

theorem remade_versioned :
    let s := (ClusterSecret.build cluster t server).2
    (s.replacing current).toJson.at? versionPath = current.metadata.resourceVersion.map .str ∧
      unversioned (s.replacing current).toJson = s.toJson := by
  dsimp only
  rw [Secret.replacing, build_eq]
  generalize (ClusterSecret.serverLabel server).2 = host
  generalize current.metadata.resourceVersion = version
  cases version <;> cases host <;> exact ⟨rfl, rfl⟩

end Bodies

theorem Answer.version_read {a : Answer} {s : Secret} (h : a.object Secret.decode? = .ok s) :
    a.json?.bind version? = s.metadata.resourceVersion := by
  obtain ⟨t, ht, hd⟩ := Answer.object_ok h
  obtain ⟨v, hv, hd⟩ := Option.bind_eq_some_iff.mp hd
  rw [Answer.json?, ht, Except.toOption, Option.bind_some, hv]
  exact (Secret.fields_of_decode hd).2

/-- One reconciliation found no secret and creates it, the other replaces the one it found. The
bodies are the same but for the version that was read, if there was one. -/
def PublishAlike (cluster : ObjectKey) (qs qs' : List Asked) (g g' : Asked) : Prop :=
  ∃ v v' : Json,
    Ends qs g (Request.create (secretsOf cluster.clusterSecret.ns) v.compact) ∧
    Ends qs' g' (Request.replace (secretsOf cluster.clusterSecret.ns) cluster.clusterSecret.name
      v'.compact) ∧
    read? v.compact = some v ∧ read? v'.compact = some v' ∧
    v.at? versionPath = none ∧
    v'.at? versionPath = (g'.answer.json?.bind version?).map .str ∧
    unversioned v' = v

theorem reconcile_alike {cluster key key' : ObjectKey} {ss ts : List Said}
    {r r' : Except SyncError Outcome} {g g' : Asked} {old : Secret}
    (h : (reconcile cluster key).RunsTo ss (.done r))
    (h' : (reconcile cluster key').RunsTo ts (.done r'))
    (hl : repliesOf .cluster (calls ss) = repliesOf .cluster (calls ts))
    (hg : g ∈ calls ss) (hh : g.ReadsHub) (ha : g.answer.Absent)
    (hg' : g' ∈ calls ts) (hh' : g'.ReadsHub) (ho : g'.answer.object Secret.decode? = .ok old) :
    PublishAlike cluster (calls ss) (calls ts) g g' := by
  obtain ⟨s, ps, us, hp, hc, hr, hgu, hd⟩ := reconcile_delivers h hg hh
  obtain ⟨s', ps', us', hp', hc', hr', hgu', hd'⟩ := reconcile_delivers h' hg' hh'
  rw [hr, hr'] at hl
  obtain ⟨rfl, t, server, rfl⟩ := plans_alike hp hp' hl
  obtain ⟨hv, hu⟩ := remade_versioned cluster t server old
  rw [hc, hc']
  exact ⟨_, _, (hd.made hgu hh.method ha).append _, (hd'.remade hgu' hh'.method ho).append _,
    read?_compact _ (Secret.plain_toJson _), read?_compact _ (Secret.plain_toJson _),
    made_unversioned cluster t server, by rw [hv, Answer.version_read ho], hu⟩

section Hub

variable {σ : Type} {answer : σ → Request → Answer × σ} {st : σ} {hub hub₁ hub₂ : Store}
  {cluster : ObjectKey} {s : Secret} {qs : List Asked} {r : Except SyncError Outcome}

def withHub (answer : σ → Request → Answer × σ) :
    σ × Store → Server → Request → Answer × (σ × Store)
  | (st, hub), .cluster, r => ((answer st r).1, (answer st r).2, hub)
  | (st, hub), .hub, r => ((hub.serve r).1, st, (hub.serve r).2)

/-- What only asks the managed cluster does not see the hub, and leaves it as it is. -/
theorem cluster_run {α : Type} {x : Exchange α} (h : x.Yields fun qs _ => Only .cluster qs)
    (st : σ) : ∃ a es ss st', ∀ hub, x.run (withHub answer) (st, hub) = (a, es, st', hub) ∧
      x.transcript (withHub answer) (st, hub) = ss := by
  induction x generalizing st with
  | done a => exact ⟨a, [], [], st, fun _ => ⟨rfl, rfl⟩⟩
  | log l next ih =>
    have hn : next.Yields fun qs _ => Only .cluster qs := fun ss a hg => h (_ :: ss) a (.log hg)
    obtain ⟨a, es, ss, st', hr⟩ := ih hn st
    refine ⟨a, .log l :: es, .log l :: ss, st', fun hub => ?_⟩
    obtain ⟨hr, ht⟩ := hr hub
    exact ⟨by rw [Exchange.run, hr], by rw [transcript, ht]⟩
  | ask server r next ih =>
    have hs : server = .cluster := by
      have hg :=
        transcript_runsTo (stateless fun _ _ => Store.noResource) (next Store.noResource) ()
      exact h _ _ (.ask Store.noResource hg) ⟨server, r, Store.noResource⟩ List.mem_cons_self
    have hn : ∀ a, (next a).Yields fun qs _ => Only .cluster qs := fun a ss b hg =>
      (List.forall_mem_cons.mp (h _ b (.ask a hg))).2
    obtain ⟨a, es, ss, st', hr⟩ := ih (answer st r).1 (hn _) (answer st r).2
    subst hs
    refine ⟨a, .sent .cluster r :: es, .asked ⟨.cluster, r, (answer st r).1⟩ :: ss, st',
      fun hub => ?_⟩
    obtain ⟨hr, ht⟩ := hr hub
    exact ⟨by simp only [Exchange.run, withHub, hr], by simp only [transcript, withHub, ht]⟩

def Store.after? (hub : Store) : Except RequestFault Request → Store
  | .error _ => hub
  | .ok r => (hub.serve r).2

theorem Exchange.Called.served_hub {α : Type} {req : Except RequestFault Request}
    {read : Answer → Except ClientError α} {x : Except ClientError α}
    (h : Called .hub req read qs x) :
    (served (withHub answer) (st, hub) qs).2 = hub.after? req := by
  cases h with
  | unbuilt hr =>
    rw [hr]
    rfl
  | answered a hr =>
    rw [hr]
    rfl

/-- What a delivery does to the hub: nothing, or a new secret where there is none, or a secret in
the place of the one that was read. -/
inductive DeliveryEffect (cluster : ObjectKey) (s : Secret) (hub : Store) : Store → Prop
  | unwritten : DeliveryEffect cluster s hub hub
  | made {g p : Request} {b : Address} :
      Request.get (secretsOf cluster.clusterSecret.ns) cluster.clusterSecret.name = .ok g →
      Request.create (secretsOf cluster.clusterSecret.ns) s.toJson.compact = .ok p →
      g.target?.bind hub.objects = none → p.target? = some b → hub.objects b = none →
      DeliveryEffect cluster s hub (hub.put b (some (hub.kept s).compact))
  | remade {g : Request} {a : Address} :
      Request.get (secretsOf cluster.clusterSecret.ns) cluster.clusterSecret.name = .ok g →
      g.target? = some a → hub.objects a ≠ none →
      DeliveryEffect cluster s hub (hub.put a (some (hub.kept s).compact))

theorem read_served {g : Request} {x : Except ClientError Secret} {ps : List Asked}
    (hg : Request.get (secretsOf cluster.clusterSecret.ns) cluster.clusterSecret.name = .ok g)
    (h : SecretRead .hub cluster.clusterSecret qs x)
    (ha : AnsweredIn (withHub answer) (st, hub) (qs ++ ps)) :
    x = (hub.serve g).1.object Secret.decode? ∧
      served (withHub answer) (st, hub) (qs ++ ps) = served (withHub answer) (st, hub) ps := by
  obtain ⟨rfl, hx⟩ := h.answered_in hg ha.left
  refine ⟨hx, ?_⟩
  have hs : (hub.serve g).2 = hub := Store.read_is_get (Request.buildNamed_ok hg).1 hub
  simp only [served, List.singleton_append, List.foldl_cons, withHub, hs]

theorem Exchange.Delivery.effect (h : Delivery cluster s qs r)
    (ha : AnsweredIn (withHub answer) (st, hub) qs) :
    DeliveryEffect cluster s hub (served (withHub answer) (st, hub) qs).2 := by
  cases h with
  | unread hx he =>
    rw [hx.served_hub]
    cases hg : Request.get (secretsOf cluster.clusterSecret.ns) cluster.clusterSecret.name with
    | error e => exact .unwritten
    | ok g =>
      rw [Store.after?, Store.read_is_get (Request.buildNamed_ok hg).1 hub]
      exact .unwritten
  | creates hx hn hy =>
    obtain ⟨q, rfl, ⟨-, hg⟩, -⟩ := hx.read_absent hn
    obtain ⟨rfl, hs⟩ := read_served hg hx ha
    obtain ⟨e, he, -⟩ := absentAsNone_none.mp hn
    have ht := Store.get_error (Request.buildNamed_ok hg).1 he
    rw [hs, hy.served_hub]
    cases hp : Request.create (secretsOf cluster.clusterSecret.ns) s.toJson.compact with
    | error e => exact .unwritten
    | ok p =>
      obtain ⟨hm, hb, -⟩ := Request.build_ok hp
      rw [Store.after?]
      obtain hs | ⟨b, hpb, hob, hs⟩ := hub.post_written hm hb
      · rw [hs]
        exact .unwritten
      · rw [hs]
        exact .made hg hp ht hpb hob
  | @replaces _ _ current _ _ hx ho hy =>
    obtain rfl := absentAsNone_some ho
    obtain ⟨q, rfl, ⟨-, hg⟩, -⟩ := hx.read_ok
    obtain ⟨hc, hs⟩ := read_served hg hx ha
    obtain ⟨text, ht, -⟩ := Answer.object_ok hc.symm
    obtain ⟨a, hta, hoa⟩ := Store.get_there (Request.buildNamed_ok hg).1 ht
    rw [hs, hy.served_hub]
    cases hp : Request.replace (secretsOf cluster.clusterSecret.ns) cluster.clusterSecret.name
        (s.replacing current).toJson.compact with
    | error e => exact .unwritten
    | ok p =>
      obtain ⟨hm, hb, -⟩ := Request.buildNamed_ok hp
      rw [Store.after?]
      obtain hs | ⟨b, hpb, hs⟩ := hub.put_written hm hb
      · rw [hs]
        exact .unwritten
      · have hab : some a = some b := hta.symm.trans ((replace_target hg hp).symm.trans hpb)
        cases hab
        rw [hs]
        exact .remade hg hta (by simp [hoa])

/-- A second delivery writes the secret of the first one once more, in another version, or does
nothing. -/
theorem DeliveryEffect.again (h : DeliveryEffect cluster s hub hub₁)
    (h' : DeliveryEffect cluster s hub₁ hub₂) :
    hub₁ = hub ∨ hub₂ = hub₁ ∨ ∃ b m n, hub₁.objects b = some (s.versioned n).toJson.compact ∧
      hub₂ = hub₁.put b (some (s.versioned m).toJson.compact) := by
  cases h with
  | unwritten => exact .inl rfl
  | @made g p b hg hp hn hb ho =>
    refine .inr ?_
    cases h' with
    | unwritten => exact .inl rfl
    | @made g' p' b' hg' hp' hn' hb' ho' =>
      -- the second could only be made in the same place, where there is one already
      cases hp.symm.trans hp'
      cases hb.symm.trans hb'
      rw [Store.put_objects_self] at ho'
      cases ho'
    | @remade g' a hg' ha ho' =>
      cases hg.symm.trans hg'
      rw [ha, Option.bind_some] at hn
      -- what is read now was not there before, so it is what was made
      obtain rfl : a = b := by
        by_contra hab
        rw [Store.put_objects_of_ne hub _ hab] at ho'
        exact ho' hn
      exact .inr ⟨a, _, _, Store.put_objects_self .., rfl⟩
  | @remade g a hg ha ho =>
    refine .inr ?_
    cases h' with
    | unwritten => exact .inl rfl
    | made hg' hp' hn' hb' ho' =>
      cases hg.symm.trans hg'
      rw [ha, Option.bind_some, Store.put_objects_self] at hn'
      cases hn'
    | remade hg' ha' ho' =>
      cases hg.symm.trans hg'
      cases ha.symm.trans ha'
      exact .inr ⟨a, _, _, Store.put_objects_self .., rfl⟩

def hubAfter {α : Type} (answer : σ → Request → Answer × σ) (st : σ) (x : Exchange α)
    (hub : Store) : Store :=
  (x.run (withHub answer) (st, hub)).2.2.2

theorem reconcile_planned (answer : σ → Request → Answer × σ) (st : σ) (cluster key : ObjectKey) :
    ∃ p st', ∀ hub, hubAfter answer st (reconcile cluster key) hub
      = hubAfter answer st' (carryOut cluster p) hub := by
  obtain ⟨p, es, ss, st', hp⟩ := cluster_run (plan_yields cluster key) st
  refine ⟨p, st', fun hub => ?_⟩
  rw [hubAfter, reconcile_plan, run_sequence, (hp hub).1, hubAfter]

theorem delivery_effect (answer : σ → Request → Answer × σ) (st : σ) (cluster : ObjectKey)
    (s : Secret) (hub : Store) :
    DeliveryEffect cluster s hub (hubAfter answer st (applyClusterSecret cluster s) hub) := by
  have hd :=
    applyClusterSecret_yields cluster s _ _ (transcript_runsTo (withHub answer) _ (st, hub))
  rw [hubAfter, run_served]
  exact hd.effect (transcript_answered _ _)

theorem deletion_after (answer : σ → Request → Answer × σ) (st : σ) (cluster : ObjectKey)
    (hub : Store) :
    hubAfter answer st (deleteClusterSecret cluster) hub = hub.after?
      (Request.delete (secretsOf cluster.clusterSecret.ns) cluster.clusterSecret.name) := by
  obtain ⟨y, hy, -⟩ := deleteClusterSecret_yields cluster _ _
    (transcript_runsTo (withHub answer) _ (st, hub))
  rw [hubAfter, run_served]
  exact hy.served_hub

theorem deletion_again (answer : σ → Request → Answer × σ) (st : σ) (cluster : ObjectKey)
    (hub : Store) :
    let gone := hubAfter answer st (deleteClusterSecret cluster)
    gone (gone hub) = gone hub := by
  dsimp only
  rw [deletion_after, deletion_after]
  cases hr : Request.delete (secretsOf cluster.clusterSecret.ns) cluster.clusterSecret.name with
  | error e => rfl
  | ok r => exact Store.delete_again hub (Request.buildNamed_ok hr).1

theorem reconcile_again (answer : σ → Request → Answer × σ) (st : σ) (cluster key : ObjectKey)
    (hub : Store) (a : Address) :
    let after := hubAfter answer st (reconcile cluster key)
    (after (after hub)).shown a = (after hub).shown a := by
  dsimp only
  obtain ⟨p, st', hp⟩ := reconcile_planned answer st cluster key
  rw [hp, hp]
  cases p with
  | fails e => rfl
  | departs =>
    rw [carryOut]
    exact congrArg (Store.shown · a) (deletion_again answer st' cluster hub)
  | delivers s =>
    rw [carryOut]
    have h := delivery_effect answer st' cluster s hub
    obtain hs | hs | ⟨b, m, n, hb, hs⟩ := h.again (delivery_effect answer st' cluster s _)
    · rw [hs, hs]
    · rw [hs]
    · rw [hs]
      exact Store.shown_rewritten hb

end Hub

section Issuing

def issuingCalls (a : Answer) (cluster : ObjectKey) : List Asked :=
  calls ((reconcile cluster tokenAccount).transcript (stateless (issuingBefore a)) ())

variable {cluster : ObjectKey} {a b : Answer} {g : Request}

theorem Exchange.Delivery.reads {s : Secret} {qs : List Asked} {r : Except SyncError Outcome}
    (h : Delivery cluster s qs r)
    (hg : Request.get (secretsOf cluster.clusterSecret.ns) cluster.clusterSecret.name = .ok g) :
    ∃ q ∈ qs, q.server = .hub ∧ q.request = g := by
  cases h with
  | unread hx =>
    obtain ⟨a, rfl, -⟩ := hx.of_built hg
    exact ⟨_, List.mem_singleton_self _, rfl, rfl⟩
  | creates hx | replaces hx =>
    obtain ⟨a, rfl, -⟩ := hx.of_built hg
    exact ⟨_, List.mem_append_left _ (List.mem_singleton_self _), rfl, rfl⟩

theorem issuing_reads
    (hg : Request.get (secretsOf cluster.clusterSecret.ns) cluster.clusterSecret.name = .ok g)
    (a : Answer) : ∃ q ∈ issuingCalls a cluster, q.ReadsHub ∧ q.answer = a := by
  have hc := reconcile_yields cluster tokenAccount _ _
    (transcript_runsTo (stateless (issuingBefore a)) _ ())
  have ha : AnsweredBy (issuingBefore a) (issuingCalls a cluster) := stateless_answers _
  obtain ⟨ps, us, s, hq, hd, -⟩ := hc.delivers ha
  obtain ⟨q, hm, hs, rfl⟩ := hd.reads hg
  have hm : q ∈ issuingCalls a cluster := by
    rw [issuingCalls, hq]
    exact List.mem_append_right _ hm
  refine ⟨q, hm, ⟨hs, (Request.buildNamed_ok hg).1⟩, ?_⟩
  rw [ha q hm, hs, issuingBefore]

theorem Exchange.RunsTo.answered_alike {α : Type} {x : Exchange α} {ss ts : List Said} {c d : α}
    {f f' : Server → Request → Answer} (hx : x.RunsTo ss (.done c)) (hy : x.RunsTo ts (.done d))
    (hf : ∀ r, f .cluster r = f' .cluster r) (hs : Only .cluster (calls ss))
    (hss : AnsweredBy f (calls ss)) (hts : AnsweredBy f' (calls ts)) :
    (calls ss).map (·.answer) = (calls ts).map (·.answer) := by
  induction x generalizing ss ts with
  | done _ =>
    cases hx
    cases hy
    rfl
  | log l next ih =>
    cases hx with
    | log hx =>
      cases hy with
      | log hy =>
        have h := ih hx hy
        exact h hs hss hts
  | ask s r next ih =>
    cases hx with
    | ask a hx =>
      cases hy with
      | ask b hy =>
        obtain ⟨hc, hs'⟩ := List.forall_mem_cons.mp hs
        obtain ⟨ha, hss'⟩ := List.forall_mem_cons.mp hss
        obtain ⟨hb, hts'⟩ := List.forall_mem_cons.mp hts
        obtain rfl : s = .cluster := hc
        obtain rfl : a = b := ha.trans ((hf r).trans hb.symm)
        exact congrArg (List.cons a) (ih a hx hy hs' hss' hts')

theorem issuing_replies {g' : Asked} {p : Asked} (hg : p ∈ issuingCalls a cluster) (hr : p.ReadsHub)
    (hg' : g' ∈ issuingCalls b cluster) (hr' : g'.ReadsHub) :
    repliesOf .cluster (issuingCalls a cluster) = repliesOf .cluster (issuingCalls b cluster) := by
  have hs : AnsweredBy (issuingBefore a) (issuingCalls a cluster) := stateless_answers _
  have hs' : AnsweredBy (issuingBefore b) (issuingCalls b cluster) := stateless_answers _
  obtain ⟨s, ts, us, hp, hc, hl, -⟩ := reconcile_delivers (transcript_runsTo _ _ ()) hg hr
  obtain ⟨s', ts', us', hp', hc', hl', -⟩ := reconcile_delivers (transcript_runsTo _ _ ()) hg' hr'
  rw [issuingCalls, hc] at hs
  rw [issuingCalls, hc'] at hs'
  rw [issuingCalls, issuingCalls, hl, hl']
  have hf : ∀ r, issuingBefore a .cluster r = issuingBefore b .cluster r := fun _ => rfl
  exact hp.answered_alike hp' hf (plan_yields cluster tokenAccount ts _ hp)
    (AnsweredBy.append.mp hs).1 (AnsweredBy.append.mp hs').1

end Issuing

/-- Where the managed cluster answers the same, a secret that is made and one that replaces another
are published alike, whatever the other one was. So at an honest hub the second of two
reconciliations leaves the labels and the content that the first one left. -/
theorem published_alike (cluster : ObjectKey) :
    (∀ ⦃σ τ : Type⦄ (serve : σ → Server → Request → Answer × σ)
      (serve' : τ → Server → Request → Answer × τ) (st : σ) (st' : τ) (key key' : ObjectKey),
      let qs := calls ((reconcile cluster key).transcript serve st)
      let qs' := calls ((reconcile cluster key').transcript serve' st')
      repliesOf .cluster qs = repliesOf .cluster qs' →
        ∀ g ∈ qs, g.ReadsHub → g.answer.Absent →
        ∀ g' ∈ qs', g'.ReadsHub → ∀ old, g'.answer.DecodesTo Secret.decode? old →
          PublishAlike cluster qs qs' g g') ∧
      ∀ ⦃σ : Type⦄ (answer : σ → Request → Answer × σ) (st : σ) (key : ObjectKey) (hub : Store)
        (a : Address),
        let after := hubAfter answer st (reconcile cluster key)
        (after (after hub)).shown a = (after hub).shown a := by
  refine ⟨?_, fun σ answer st key hub a => reconcile_again answer st cluster key hub a⟩
  intro σ τ serve serve' st st' key key' qs qs' hl g hg hh ha g' hg' hh' old ho
  exact reconcile_alike (transcript_runsTo serve _ st)
    (transcript_runsTo serve' _ st') hl hg hh ha hg'
    hh' (Answer.object_ok_iff.mpr ho)

def strangerJson : Json :=
  .obj [("type", .str "Opaque"),
    ("metadata", .obj [("labels", .obj [("app", .str "other")]), ("finalizers", .arr [.str "keep"]),
      ("resourceVersion", .str "41")]),
    ("data", .obj [("password", .str "cGFzcw==")])]

/-- The secret is made where there is none, and takes the place of the stranger's elsewhere. -/
theorem stranger_overwritten :
    let fresh := issuingCalls Store.noResource ⟨"prod", "fleet"⟩
    let taken := issuingCalls (Store.reply 200 strangerJson) ⟨"prod", "fleet"⟩
    ∃ g ∈ fresh, ∃ g' ∈ taken, g.answer = Store.noResource ∧
      g'.answer = Store.reply 200 strangerJson ∧
      PublishAlike ⟨"prod", "fleet"⟩ fresh taken g g' := by
  intro fresh taken
  have hb : Request.get (secretsOf "fleet") "prod-cluster-secret"
      = .ok ⟨.get, "/api/v1/namespaces/fleet/secrets/prod-cluster-secret", "", ""⟩ := by decide
  obtain ⟨g, hg, hr, ha⟩ := @issuing_reads ⟨"prod", "fleet"⟩ _ hb Store.noResource
  obtain ⟨g', hg', hr', ha'⟩ := @issuing_reads ⟨"prod", "fleet"⟩ _ hb
    (Store.reply 200 strangerJson)
  have hl : repliesOf .cluster fresh = repliesOf .cluster taken :=
    issuing_replies hg hr hg' hr'
  have ho : (Store.reply 200 strangerJson).DecodesTo Secret.decode?
      { metadata := { labels := some [("app", "other")], resourceVersion := some "41" } } :=
    Answer.reply_decodesTo (by decide) (by decide) (by decide +kernel)
  exact ⟨g, hg, g', hg', ha, ha', (published_alike _).1 _ _ () () _ _ hl g hg hr
    (ha ▸ noResource_absent) g' hg' hr' _ (ha' ▸ ho)⟩

end TokenCourier
