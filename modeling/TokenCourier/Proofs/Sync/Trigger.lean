import TokenCourier.Proofs.Sync.Address
import TokenCourier.Proofs.Sync.Overwrite

namespace TokenCourier

open Exchange

variable {σ τ α : Type} {serve : σ → Server → Request → Answer × σ}
  {serve' : τ → Server → Request → Answer × τ} {st : σ} {st' : τ} {S : σ → τ → Prop}
  {cluster key key' : ObjectKey} {r r' : Request} {a a' : Answer} {path path' : String}

inductive SamePresence (a a' : Answer) : Prop where
  | there {sa sa' : ServiceAccount} : a.DecodesTo ServiceAccount.decode? sa →
      a'.DecodesTo ServiceAccount.decode? sa' → SamePresence a a'
  | gone : a.Absent → a'.Absent → SamePresence a a'

/-- From related states, the servers answer alike whatever is asked, but for what the managed
cluster is asked at these two paths. -/
def AlikeBut (path path' : String) (S : σ → τ → Prop)
    (serve : σ → Server → Request → Answer × σ)
    (serve' : τ → Server → Request → Answer × τ) : Prop :=
  ∀ st st' s r, S st st' → (s = .cluster → r.path ≠ path ∧ r.path ≠ path') →
    (serve st s r).1 = (serve' st' s r).1 ∧ S (serve st s r).2 (serve' st' s r).2

def clusterPaths (qs : List (Server × Request)) : List String :=
  (qs.filter (·.1 = .cluster)).map (·.2.path)

theorem mem_clusterPaths {qs : List (Server × Request)} :
    path ∈ clusterPaths qs ↔ ∃ r, (.cluster, r) ∈ qs ∧ r.path = path := by
  simp [clusterPaths]

namespace Exchange

/-- A program that stays away from where the answers may differ does the same in both runs. -/
theorem run_alike (h : AlikeBut path path' S serve serve') (hs : S st st') (x : Exchange α)
    (hp : path ∉ clusterPaths (sends (x.run serve st).2.1))
    (hp' : path' ∉ clusterPaths (sends (x.run serve' st').2.1)) :
    (x.run serve st).1 = (x.run serve' st').1 ∧ (x.run serve st).2.1 = (x.run serve' st').2.1 := by
  induction x generalizing st st' with
  | done a => exact ⟨rfl, rfl⟩
  | log l next ih =>
    obtain ⟨hr, he⟩ := ih hs hp hp'
    exact ⟨hr, congrArg (Entry.log l :: ·) he⟩
  | ask s r next ih =>
    -- both runs ask this, so each of them says of one path that it is not here
    have hne : s = .cluster → r.path ≠ path ∧ r.path ≠ path' := by
      rintro rfl
      exact ⟨fun he => hp (mem_clusterPaths.mpr ⟨r, List.mem_cons_self, he⟩),
        fun he => hp' (mem_clusterPaths.mpr ⟨r, List.mem_cons_self, he⟩)⟩
    obtain ⟨ha, hn⟩ := h st st' s r hs hne
    have hq : ∀ {path : String} {qs : List (Server × Request)},
        path ∉ clusterPaths ((s, r) :: qs) → path ∉ clusterPaths qs := by
      intro path qs hp hm
      obtain ⟨q, hq, he⟩ := mem_clusterPaths.mp hm
      exact hp (mem_clusterPaths.mpr ⟨q, List.mem_cons_of_mem _ hq, he⟩)
    simp only [run, ← ha] at hp' ⊢
    obtain ⟨hr, he⟩ := ih _ hn (hq hp) (hq hp')
    exact ⟨hr, congrArg (Entry.sent s r :: ·) he⟩

theorem reconcile_asks (cluster : ObjectKey)
    (hr : Request.get (serviceAccountsOf key.ns) key.name = .ok r) (a : Answer) :
    (reconcile cluster key).RunsTo
      [.log ⟨.info, s!"Reconciling {key}"⟩, .asked ⟨.cluster, r, a⟩]
      (match absentAsNone (a.object ServiceAccount.decode?) with
        | .error e => pure (.error (.client e))
        | .ok none => do
          info s!"{key} is not found. Deleting the secret from the hub."
          deleteClusterSecret cluster
        | .ok (some _) => publish cluster) := by
  refine .log ?_
  simp only [getServiceAccount, call, hr]
  exact .ask a (.refl _)

theorem reconcile_of_present (cluster : ObjectKey) {sa : ServiceAccount}
    (hr : Request.get (serviceAccountsOf key.ns) key.name = .ok r)
    (ha : a.DecodesTo ServiceAccount.decode? sa) :
    ∃ ss, (reconcile cluster key).RunsTo ss (publish cluster) ∧ calls ss = [⟨.cluster, r, a⟩] := by
  have hg := reconcile_asks cluster hr a
  rw [Answer.object_ok_iff.mpr ha, absentAsNone] at hg
  exact ⟨_, hg, rfl⟩

theorem reconcile_of_absent (cluster : ObjectKey)
    (hr : Request.get (serviceAccountsOf key.ns) key.name = .ok r) (ha : a.Absent) :
    ∃ ss, (reconcile cluster key).RunsTo ss (deleteClusterSecret cluster) ∧
      calls ss = [⟨.cluster, r, a⟩] := by
  have hg := reconcile_asks cluster hr a
  rw [absentAsNone_none.mpr ha] at hg
  exact ⟨_, hg.trans (.log (.refl _)), rfl⟩

theorem reconciles_same (cluster : ObjectKey)
    (hr : Request.get (serviceAccountsOf key.ns) key.name = .ok r)
    (hr' : Request.get (serviceAccountsOf key'.ns) key'.name = .ok r') (h : SamePresence a a') :
    ∃ x ss ss', (reconcile cluster key).RunsTo ss x ∧ calls ss = [⟨.cluster, r, a⟩] ∧
      (reconcile cluster key').RunsTo ss' x ∧ calls ss' = [⟨.cluster, r', a'⟩] := by
  cases h with
  | there ha ha' =>
    obtain ⟨ss, hg, hc⟩ := reconcile_of_present cluster hr ha
    obtain ⟨ss', hg', hc'⟩ := reconcile_of_present cluster hr' ha'
    exact ⟨_, ss, ss', hg, hc, hg', hc'⟩
  | gone ha ha' =>
    obtain ⟨ss, hg, hc⟩ := reconcile_of_absent cluster hr ha
    obtain ⟨ss', hg', hc'⟩ := reconcile_of_absent cluster hr' ha'
    exact ⟨_, ss, ss', hg, hc, hg', hc'⟩

theorem RunsTo.ends {x y : Exchange α} {ss : List Said} (h : x.RunsTo ss y)
    (hc : calls ss = [⟨.cluster, r, (serve st .cluster r).1⟩]) :
    let rest := y.run serve (serve st .cluster r).2
    (x.run serve st).1 = rest.1 ∧ sends (x.run serve st).2.1 = (.cluster, r) :: sends rest.2.1 := by
  have ha : AnsweredIn serve st (calls ss) := by
    rw [hc]
    exact ⟨rfl, trivial⟩
  have hr := h.run ha
  rw [hc] at hr
  have hs := sends_entries ss
  rw [hc] at hs
  rw [hr]
  refine ⟨rfl, ?_⟩
  rw [sends, List.filterMap_append, ← sends, hs]
  rfl

end Exchange

section Keys

inductive Asked.Resolves (q : Asked) : Prop where
  | account : q.Gets .cluster (serviceAccountsOf tokenAccount.ns) tokenAccount.name → q.Resolves
  | secret {name : String} : q.Gets .cluster (secretsOf tokenAccount.ns) name → q.Resolves
  | infrastructure : q.Gets .cluster (Infrastructure.collectionPath none) "cluster" → q.Resolves

theorem Exchange.Search.resolves {qs : List Asked} {x : Except TokenCause String}
    (h : Search qs x) : ∀ q ∈ qs, q.Resolves := by
  intro q hq
  cases h with
  | serviceAccount ha | noSecret ha _ => exact .account (ha.gets q hq)
  | secret ha _ hs | noValue ha _ hs _ | found ha _ hs _ =>
    obtain hq | hq := List.mem_append.mp hq
    · exact .account (ha.gets q hq)
    · exact .secret (hs.gets q hq)

theorem Exchange.Course.resolves {qs : List Asked} {v : Except SyncError Outcome}
    (h : Course cluster key qs v) : ∀ q ∈ qs.tail, q.server = .cluster → q.Resolves := by
  intro q hq hc
  cases h with
  | unread hx he =>
    obtain rfl | ⟨p, rfl, -⟩ := hx.read_error he <;> cases hq
  | departs hx hn hd =>
    obtain ⟨p, rfl, -⟩ := hx.read_absent hn
    cases hc.symm.trans (hd.asks q hq).1
  | unresolved hx ho ht =>
    obtain rfl := absentAsNone_some ho
    obtain ⟨p, rfl, -⟩ := hx.read_ok
    exact ht.resolves q hq
  | @publishes _ _ _ ps _ us _ ws _ hx ho ht hi hd =>
    obtain rfl := absentAsNone_some ho
    obtain ⟨p, rfl, -⟩ := hx.read_ok
    have hq : q ∈ ps ∨ q ∈ us ∨ q ∈ ws := by simpa [or_assoc] using hq
    obtain hq | hq | hq := hq
    · exact ht.resolves q hq
    · exact .infrastructure (hi.gets q hq)
    · cases hc.symm.trans (hd.only q hq)

theorem ObjectKey.PathSafe.get_path (hu : key.PathSafe)
    (hr : Request.get (serviceAccountsOf key.ns) key.name = .ok r) :
    r.path = serviceAccountsOf key.ns ++ "/" ++ key.name := by
  have hn : NoDelimiter key.ns := fun c hc => (hu.ns c hc).2
  have hc : NoDelimiter (serviceAccountsOf key.ns) := hn.collection (by decide)
  have ht : NoDelimiter (serviceAccountsOf key.ns ++ "/" ++ key.name) :=
    (hc.append (by decide)).append hu.name
  obtain ⟨-, -, query, hr⟩ := Request.buildNamed_ok hr
  rw [String.append_empty] at hr
  exact Target.parse_whole ht hr

theorem Asked.Resolves.elsewhere {q : Asked} (h : q.Resolves) (hu : key.PathSafe)
    (hn : key ≠ tokenAccount)
    (hr : Request.get (serviceAccountsOf key.ns) key.name = .ok r) : q.request.path ≠ r.path := by
  have hk : OneSegment key.ns := fun hm => (hu.ns '/' hm).1 rfl
  intro he
  cases h with
  | account hg =>
    have hq := Except.ok.inj (accountRequest_eq.symm.trans hg.request)
    have ha : accountRequest.path
        = serviceAccountsOf tokenAccount.ns ++ "/" ++ tokenAccount.name := by decide
    rw [← hq, ha, hu.get_path hr] at he
    obtain ⟨hns, -, hname⟩ := object_inj (by decide) hk (by decide) (by decide) he
    exact hn (by rw [ObjectKey.mk.injEq]; exact ⟨hname.symm, hns.symm⟩)
  | @secret name hg =>
    -- whatever the link is called, its path starts with the collection of secrets
    obtain ⟨-, -, query, hp⟩ := Request.buildNamed_ok hg.request
    rw [String.append_assoc] at hp
    obtain ⟨rest, hs⟩ := Target.path_append (by decide) hp
    have hq : q.request.path = secretsOf tokenAccount.ns ++ "/" ++ String.ofList rest := by
      rw [← String.ofList_toList (s := q.request.path), ← hs, String.ofList_append,
        String.ofList_toList]
    rw [hq, hu.get_path hr] at he
    obtain ⟨-, hk, -⟩ := object_inj (by decide) hk (by decide) (by decide) he
    exact absurd hk (by decide)
  | infrastructure hg =>
    have hq : Request.get (Infrastructure.collectionPath none) "cluster"
        = .ok ⟨.get, Infrastructure.collectionPath none ++ "/cluster", "", ""⟩ := by decide
    have hq := Except.ok.inj (hq.symm.trans hg.request)
    rw [← hq] at he
    exact path_of_collection hr he.symm

/-- A reconciliation reads its key once, unless that is the service account that has the token. -/
theorem key_read_once (serve : σ → Server → Request → Answer × σ) (st : σ) (cluster : ObjectKey)
    (hu : key.PathSafe) (hn : key ≠ tokenAccount)
    (hr : Request.get (serviceAccountsOf key.ns) key.name = .ok r) :
    r.path ∉ (clusterPaths (sends ((reconcile cluster key).run serve st).2.1)).tail := by
  have hc := reconcile_yields cluster key _ _ (transcript_runsTo serve _ st)
  have hf := (Disciplined.of_course hc).first
  have hl := hc.resolves
  rw [← transcript_entries, sends_entries]
  generalize calls ((reconcile cluster key).transcript serve st) = qs at hf hl
  cases qs with
  | nil => exact List.not_mem_nil
  | cons q qs =>
    have hq : q.server = .cluster := (hf q rfl).server
    rw [List.map_cons, hq]
    intro hm
    obtain ⟨g, hg, he⟩ := mem_clusterPaths.mp hm
    obtain ⟨p, hp, hg⟩ := List.mem_map.mp hg
    obtain ⟨hs, rfl⟩ := Prod.mk.inj hg
    exact (hl p hp hs).elsewhere hu hn hr he

end Keys

/-- Two keys whose service accounts are both there, or both not, are reconciled alike: after they
were read, the same is asked in the same order, with the same result. -/
theorem triggers_interchangeable (cluster key key' : ObjectKey)
    (hr : Request.get (serviceAccountsOf key.ns) key.name = .ok r)
    (hr' : Request.get (serviceAccountsOf key'.ns) key'.name = .ok r')
    (ha : AlikeBut r.path r'.path S serve serve')
    (hp : SamePresence (serve st .cluster r).1 (serve' st' .cluster r').1)
    (hs : S (serve st .cluster r).2 (serve' st' .cluster r').2) :
    let run := (reconcile cluster key).run serve st
    let run' := (reconcile cluster key').run serve' st'
    r.path ∉ (clusterPaths (sends run.2.1)).tail →
      r'.path ∉ (clusterPaths (sends run'.2.1)).tail →
      run.1 = run'.1 ∧ ∃ rest, sends run.2.1 = (.cluster, r) :: rest ∧
        sends run'.2.1 = (.cluster, r') :: rest := by
  intro run run' hn hn'
  obtain ⟨x, ss, ss', hg, hc, hg', hc'⟩ := reconciles_same cluster hr hr' hp
  obtain ⟨he, hq⟩ := hg.ends hc
  obtain ⟨he', hq'⟩ := hg'.ends hc'
  rw [hq] at hn
  rw [hq'] at hn'
  obtain ⟨hv, hl⟩ := run_alike ha hs x hn hn'
  refine ⟨he.trans (hv.trans he'.symm), _, hq, ?_⟩
  rw [hq', hl]

def answeringAt (path : String) (a : Answer) (st : Stage) (s : Server) (r : Request) :
    Answer × Stage :=
  if s = .cluster ∧ r.path = path then (a, st) else st.answer s r

theorem answeringAt_alike (path path' : String) (a : Answer) :
    AlikeBut path path' Eq Stage.answer (answeringAt path' a) := by
  rintro st _ s r rfl hne
  have hp : ¬ (s = .cluster ∧ r.path = path') := fun h => (hne h.1).2 h.2
  rw [answeringAt, if_neg hp]
  exact ⟨rfl, rfl⟩

/-- A service account of another name, with a link to a secret like that of the token. -/
theorem other_links_unpublished :
    let agent : Request := ⟨.get, "/api/v1/namespaces/addon/serviceaccounts/agent", "", ""⟩
    let other : Request := ⟨.get, "/api/v1/namespaces/addon/serviceaccounts/other", "", ""⟩
    let links := linking [some "application-manager-dockercfg-0"]
    let st := tokenStage "s3cret" Store.noResource
    let run := (reconcile ⟨"prod", "fleet"⟩ ⟨"agent", "addon"⟩).run Stage.answer st
    let run' := (reconcile ⟨"prod", "fleet"⟩ ⟨"other", "addon"⟩).run
      (answeringAt other.path links) st
    run.1 = .ok .created ∧ run.1 = run'.1 ∧ ∃ rest, sends run.2.1 = (.cluster, agent) :: rest ∧
      sends run'.2.1 = (.cluster, other) :: rest := by
  intro agent other links st
  have hr : Request.get (serviceAccountsOf "addon") "agent" = .ok agent := by decide
  have hr' : Request.get (serviceAccountsOf "addon") "other" = .ok other := by decide
  have ha : st.answer .cluster agent = (Store.reply 200 (.obj []), st) := rfl
  have ha' : answeringAt other.path links st .cluster other = (links, st) := if_pos ⟨rfl, rfl⟩
  have hs : (st.answer .cluster agent).2 = (answeringAt other.path links st .cluster other).2 := by
    rw [ha, ha']
  have hp : SamePresence (st.answer .cluster agent).1
      (answeringAt other.path links st .cluster other).1 := by
    have hc : ¬ (400 ≤ 200 ∧ 200 < 600) := by decide
    rw [ha, ha']
    exact .there (Answer.reply_decodesTo hc (by decide) rfl)
      (Answer.reply_decodesTo hc (by decide) rfl)
  have hu : ObjectKey.PathSafe ⟨"agent", "addon"⟩ := by decide
  have hu' : ObjectKey.PathSafe ⟨"other", "addon"⟩ := by decide
  have hn := key_read_once Stage.answer st ⟨"prod", "fleet"⟩ hu (by decide) hr
  have hn' := key_read_once (answeringAt other.path links) st ⟨"prod", "fleet"⟩ hu'
    (by decide) hr'
  exact ⟨tokenStage_created, triggers_interchangeable ⟨"prod", "fleet"⟩ ⟨"agent", "addon"⟩
    ⟨"other", "addon"⟩ hr hr' (answeringAt_alike agent.path other.path links) hp hs hn hn'⟩

end TokenCourier
