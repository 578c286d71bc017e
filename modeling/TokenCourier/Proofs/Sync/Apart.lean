import TokenCourier.Proofs.Api.Replies
import TokenCourier.Proofs.Config
import TokenCourier.Proofs.Sync.Exclusive

namespace TokenCourier

open Exchange

def Request.addressed? (r : Request) : Option String :=
  match r.method with
  | .get => none
  | .put | .delete => some r.path
  | .post => ((Json.read? r.body).bind Json.name?).map fun name => r.path ++ "/" ++ name

/-- Where the secret of a cluster may be written: where it is deleted, and where it is replaced or
made, for which it must be read first. -/
inductive ObjectKey.Reaches (cluster : ObjectKey) : String → Prop where
  | deletes {r} :
      Request.delete (secretsOf cluster.clusterSecret.ns) cluster.clusterSecret.name = .ok r →
      cluster.Reaches r.path
  | replaces {g r body} :
      Request.get (secretsOf cluster.clusterSecret.ns) cluster.clusterSecret.name = .ok g →
      Request.replace (secretsOf cluster.clusterSecret.ns) cluster.clusterSecret.name body
        = .ok r →
      cluster.Reaches r.path
  | creates {g r body} :
      Request.get (secretsOf cluster.clusterSecret.ns) cluster.clusterSecret.name = .ok g →
      Request.create (secretsOf cluster.clusterSecret.ns) body = .ok r →
      cluster.Reaches (r.path ++ "/" ++ cluster.clusterSecret.name)

namespace Request

variable {m : Method} {target collection name suffix body : String} {r : Request}

theorem build_body (h : build m target body = .ok r) (b : String) :
    build m target b = .ok { r with body := b } := by
  unfold build at h ⊢
  cases hp : Target.parse target with
  | error e =>
    rw [hp] at h
    cases h
  | ok t =>
    rw [hp] at h
    cases h
    rfl

theorem buildNamed_body (h : buildNamed m collection name suffix body = .ok r) (b : String) :
    buildNamed m collection name suffix b = .ok { r with body := b } := by
  unfold buildNamed at h ⊢
  split at h
  · cases h
  · next hn =>
    rw [if_neg hn]
    exact build_body h b

theorem named_addressed (hm : m = .put ∨ m = .delete)
    (h : buildNamed m collection name suffix body = .ok r) : r.addressed? = some r.path := by
  rw [addressed?, (buildNamed_ok h).1]
  obtain rfl | rfl := hm <;> rfl

theorem create_addressed {s : Secret} (hn : s.metadata.name = some name)
    (h : create collection s.toJson.compact = .ok r) :
    r.addressed? = some (r.path ++ "/" ++ name) := by
  obtain ⟨hm, hb, -⟩ := build_ok h
  have hs : s.toJson.name? = some name :=
    (Secret.fields_of_decode (Secret.decode_toJson s)).1.trans hn
  simp [addressed?, hm, hb, Json.read?_compact _ (Secret.plain_toJson s), hs]

end Request

namespace Exchange

variable {cluster key : ObjectKey} {qs : List Asked} {r : Except SyncError Outcome} {q : Asked}

theorem Delivery.reaches {s : Secret} (h : Delivery cluster s qs r)
    (hn : s.metadata.name = some cluster.clusterSecret.name) (hq : q ∈ qs)
    (hw : q.request.method ≠ .get) : ∃ a, cluster.Reaches a ∧ q.request.addressed? = some a := by
  cases h with
  | unread hx => exact absurd (hx.gets q hq).method hw
  | creates hx ha hy =>
    obtain ⟨g, rfl, hg, -⟩ := hx.read_absent ha
    obtain hq | hq := List.mem_append.mp hq
    · exact absurd (hx.gets q hq).method hw
    · have hc := (hy.asks q hq).2
      exact ⟨_, .creates hg.request hc, Request.create_addressed hn hc⟩
  | replaces hx ho hy =>
    obtain rfl := absentAsNone_some ho
    obtain ⟨g, rfl, hg, -⟩ := hx.read_ok
    obtain hq | hq := List.mem_append.mp hq
    · exact absurd (hx.gets q hq).method hw
    · have hc := (hy.asks q hq).2
      exact ⟨_, .replaces hg.request hc, Request.named_addressed (.inl rfl) hc⟩

/-- A write of a reconciliation is about an object that its cluster reaches. -/
theorem Course.reaches (h : Course cluster key qs r) (hq : q ∈ qs)
    (hw : q.request.method ≠ .get) : ∃ a, cluster.Reaches a ∧ q.request.addressed? = some a := by
  cases h with
  | unread hx => exact absurd (hx.gets q hq).method hw
  | departs hx _ hd =>
    obtain hq | hq := List.mem_append.mp hq
    · exact absurd (hx.gets q hq).method hw
    · have hr := (hd.asks q hq).2
      exact ⟨_, .deletes hr, Request.named_addressed (.inr rfl) hr⟩
  | unresolved hx _ ht =>
    obtain hq | hq := List.mem_append.mp hq
    · exact absurd (hx.gets q hq).method hw
    · exact absurd (ht.gets q hq).2 hw
  | publishes hx ho ht hi hd =>
    obtain hq | hq := List.mem_append.mp hq
    · exact absurd ((prepared hx ho ht hi).reads q hq).2 hw
    · exact hd.reaches rfl hq hw

end Exchange

def hubWrites {σ : Type} (serve : σ → Server → Request → Answer × σ) (cluster key : ObjectKey)
    (st : σ) : List Asked :=
  (calls ((reconcile cluster key).transcript serve st)).filter fun q =>
    q.server = .hub ∧ q.request.method ≠ .get

theorem hubWrites_reach {σ : Type} {serve : σ → Server → Request → Answer × σ}
    {cluster key : ObjectKey} {st : σ} {q : Asked} (hq : q ∈ hubWrites serve cluster key st) :
    ∃ a, cluster.Reaches a ∧ q.request.addressed? = some a := by
  obtain ⟨hq, hw⟩ := List.mem_filter.mp hq
  have hc := reconcile_yields cluster key _ _ (transcript_runsTo serve (reconcile cluster key) st)
  exact hc.reaches hq (of_decide_eq_true hw).2

namespace Exchange

variable {f : Server → Request → Answer} {α : Type} {cluster key : ObjectKey} {qs : List Asked}

def AnsweredBy (f : Server → Request → Answer) (qs : List Asked) : Prop :=
  ∀ q ∈ qs, q.answer = f q.server q.request

theorem stateless_answers (x : Exchange α) :
    AnsweredBy f (calls (x.transcript (stateless f) ())) := by
  induction x with
  | done a => nofun
  | log l next ih => exact ih
  | ask s r next ih => exact List.forall_mem_cons.mpr ⟨rfl, ih (f s r)⟩

theorem AnsweredBy.append {ps : List Asked} :
    AnsweredBy f (qs ++ ps) ↔ AnsweredBy f qs ∧ AnsweredBy f ps := List.forall_mem_append

theorem Called.answered_by {s : Server} {req : Except RequestFault Request} {r : Request}
    {read : Answer → Except ClientError α} {x : Except ClientError α} (h : Called s req read qs x)
    (hr : req = .ok r) (ha : AnsweredBy f qs) : qs = [⟨s, r, f s r⟩] ∧ x = read (f s r) := by
  obtain ⟨a, rfl, rfl⟩ := h.of_built hr
  obtain rfl : a = f s r := ha _ (List.mem_singleton_self _)
  exact ⟨rfl, rfl⟩

theorem ok_of_toOption {ε : Type} {x : Except ε α} {v : α} (h : x.toOption = some v) :
    x = .ok v := by
  cases x with
  | error e => cases h
  | ok w =>
    cases h
    rfl

theorem ok_of_decided {ε δ β : Type} {x : Except ε α} {g : α → Except δ β} {v : β}
    (h : (x.toOption.bind fun a => (g a).toOption) = some v) :
    ∃ a, x = .ok a ∧ g a = .ok v := by
  obtain ⟨a, ha, hg⟩ := Option.bind_eq_some_iff.mp h
  exact ⟨a, ok_of_toOption ha, ok_of_toOption hg⟩

theorem issuer_read : ∃ r,
    Request.get (serviceAccountsOf tokenAccount.ns) tokenAccount.name = .ok r ∧
      (Store.issuing.serve r).1.object ServiceAccount.decode? = .ok issuer :=
  ok_of_decided (by decide +kernel)

theorem issued_read : ∃ r,
    Request.get (secretsOf issuedKey.ns) issuedKey.name = .ok r ∧
      (Store.issuing.serve r).1.object Secret.decode? = .ok issued :=
  ok_of_decided (by decide +kernel)

def issuingBefore (a : Answer) : Server → Request → Answer
  | .cluster, r => (Store.issuing.serve r).1
  | .hub, _ => a

variable {a : Answer}

theorem account_issued {x : Except ClientError ServiceAccount}
    (h : AccountRead .cluster tokenAccount qs x) (ha : AnsweredBy (issuingBefore a) qs) :
    x = .ok issuer := by
  obtain ⟨r, hr, ho⟩ := issuer_read
  exact (h.answered_by hr ha).2.trans ho

theorem secret_issued {x : Except ClientError Secret} {sa : ServiceAccount} {name : String}
    (hs : Except.ok sa = (.ok issuer : Except ClientError ServiceAccount))
    (hn : sa.dockercfg? = some name) (h : SecretRead .cluster ⟨name, tokenAccount.ns⟩ qs x)
    (ha : AnsweredBy (issuingBefore a) qs) : x = .ok issued := by
  cases hs
  have hd : issuer.dockercfg? = some issuedKey.name := by decide
  cases hn.symm.trans hd
  obtain ⟨r, hr, ho⟩ := issued_read
  exact (h.answered_by hr ha).2.trans ho

theorem Search.issued {z : Except TokenCause String} (h : Search qs z)
    (ha : AnsweredBy (issuingBefore a) qs) : ∃ t, z = .ok t := by
  cases h with
  | serviceAccount hx => cases account_issued hx ha
  | noSecret hx hn =>
    cases account_issued hx ha
    exact absurd hn (by decide)
  | secret hx hn hs =>
    obtain ⟨ha, hb⟩ := AnsweredBy.append.mp ha
    cases secret_issued (account_issued hx ha) hn hs hb
  | noValue hx hn hs ht =>
    obtain ⟨ha, hb⟩ := AnsweredBy.append.mp ha
    cases secret_issued (account_issued hx ha) hn hs hb
    exact absurd ht (by decide)
  | found => exact ⟨_, rfl⟩

theorem Course.delivers {r : Except SyncError Outcome} (h : Course cluster tokenAccount qs r)
    (ha : AnsweredBy (issuingBefore a) qs) : ∃ ps us s, qs = ps ++ us ∧ Delivery cluster s us r ∧
      s.metadata.name = some cluster.clusterSecret.name := by
  cases h with
  | unread hx ho =>
    cases account_issued hx ha
    cases ho
  | departs hx ho =>
    cases account_issued hx (AnsweredBy.append.mp ha).1
    cases ho
  | unresolved hx ho ht =>
    obtain ⟨t, ht⟩ := ht.issued (AnsweredBy.append.mp ha).2
    cases ht
  | publishes hx ho ht hi hd => exact ⟨_, _, _, rfl, hd, rfl⟩

/-- The object is written, for one key at least and with some servers. -/
def Written (cluster : ObjectKey) (path : String) : Prop :=
  ∃ f key, ∃ q ∈ hubWrites (stateless f) cluster key (), q.request.addressed? = some path

theorem written_of_course {path : String} (f : Server → Request → Answer) (key : ObjectKey)
    (h : ∀ qs v, Course cluster key qs v → AnsweredBy f qs →
      ∃ q ∈ qs, q.server = .hub ∧ q.request.addressed? = some path) : Written cluster path := by
  have hg := transcript_runsTo (stateless f) (reconcile cluster key) ()
  obtain ⟨q, hq, hs, hp⟩ := h _ _ (reconcile_yields cluster key _ _ hg) (stateless_answers _)
  refine ⟨f, key, q, List.mem_filter.mpr ⟨hq, decide_eq_true ⟨hs, fun hm => ?_⟩⟩, hp⟩
  rw [Request.addressed?, hm] at hp
  cases hp

theorem noResource_absent : Answer.Absent Store.noResource :=
  ⟨_, Answer.text_refusal (by decide) _ _, rfl⟩

theorem deletes_written {p : Request}
    (hp : Request.delete (secretsOf cluster.clusterSecret.ns) cluster.clusterSecret.name = .ok p) :
    Written cluster p.path := by
  obtain ⟨g, hg, -⟩ := issuer_read
  have hn := absentAsNone_none (f := ServiceAccount.decode?).mpr noResource_absent
  apply written_of_course (fun _ _ => Store.noResource) tokenAccount
  intro qs v hc ha
  -- nothing is ever found, so no other course than a departure is left
  cases hc with
  | departs hx ho hd =>
    rw [(hd.answered_by hp (AnsweredBy.append.mp ha).2).1]
    exact ⟨_, List.mem_append_right _ (List.mem_singleton_self _), rfl,
      Request.named_addressed (.inr rfl) hp⟩
  | unread hx ho =>
    rw [(hx.answered_by hg ha).2, hn] at ho
    cases ho
  | unresolved hx ho ht =>
    rw [(hx.answered_by hg (AnsweredBy.append.mp ha).1).2, hn] at ho
    cases ho
  | publishes hx ho ht hi hd =>
    obtain ⟨ha, -⟩ := AnsweredBy.append.mp ha
    rw [(hx.answered_by hg (AnsweredBy.append.mp ha).1).2, hn] at ho
    cases ho

section Readable

variable {g p : Request} {body : String}
  (hg : Request.get (secretsOf cluster.clusterSecret.ns) cluster.clusterSecret.name = .ok g)

include hg

theorem creates_written
    (hp : Request.create (secretsOf cluster.clusterSecret.ns) body = .ok p) :
    Written cluster (p.path ++ "/" ++ cluster.clusterSecret.name) := by
  have hn := absentAsNone_none (f := Secret.decode?).mpr noResource_absent
  apply written_of_course (issuingBefore Store.noResource) tokenAccount
  intro qs v hc ha
  obtain ⟨ps, us, s, rfl, hd, hs⟩ := hc.delivers ha
  obtain ⟨-, ha⟩ := AnsweredBy.append.mp ha
  -- the token is issued and the hub has nothing, so the secret is made
  cases hd with
  | creates hx ho hy =>
    have hb := Request.build_body hp s.toJson.compact
    rw [(hy.answered_by hb (AnsweredBy.append.mp ha).2).1]
    exact ⟨_, List.mem_append_right _ (List.mem_append_right _ (List.mem_singleton_self _)), rfl,
      Request.create_addressed hs hb⟩
  | unread hx ho =>
    rw [(hx.answered_by hg ha).2] at ho
    cases hn.symm.trans ho
  | replaces hx ho =>
    rw [(hx.answered_by hg (AnsweredBy.append.mp ha).1).2] at ho
    cases hn.symm.trans ho

theorem replaces_written
    (hp : Request.replace (secretsOf cluster.clusterSecret.ns) cluster.clusterSecret.name body
      = .ok p) : Written cluster p.path := by
  have hn : absentAsNone ((Store.reply 200 (Secret.toJson {})).object Secret.decode?)
      = .ok (some {}) := by
    rw [Store.reply_secret (by decide) {}]
    rfl
  apply written_of_course (issuingBefore (Store.reply 200 (Secret.toJson {}))) tokenAccount
  intro qs v hc ha
  obtain ⟨ps, us, s, rfl, hd, hs⟩ := hc.delivers ha
  obtain ⟨-, ha⟩ := AnsweredBy.append.mp ha
  -- the hub has a secret of that name, whatever is in it
  cases hd with
  | @replaces _ _ current _ _ hx ho hy =>
    have hb := Request.buildNamed_body hp (s.replacing current).toJson.compact
    rw [(hy.answered_by hb (AnsweredBy.append.mp ha).2).1]
    exact ⟨_, List.mem_append_right _ (List.mem_append_right _ (List.mem_singleton_self _)), rfl,
      Request.named_addressed (.inl rfl) hb⟩
  | unread hx ho =>
    rw [(hx.answered_by hg ha).2] at ho
    cases hn.symm.trans ho
  | creates hx ho =>
    rw [(hx.answered_by hg (AnsweredBy.append.mp ha).1).2] at ho
    cases hn.symm.trans ho

end Readable

theorem reaches_written {path : String} (h : cluster.Reaches path) : Written cluster path := by
  cases h with
  | deletes hp => exact deletes_written hp
  | replaces hg hp => exact replaces_written hg hp
  | creates hg hp => exact creates_written hg hp

end Exchange

structure ObjectKey.PathSafe (k : ObjectKey) : Prop where
  ns : ∀ c ∈ k.ns.toList, c ≠ '/' ∧ c ≠ '?' ∧ c ≠ '#'
  name : ∀ c ∈ k.name.toList, c ≠ '?' ∧ c ≠ '#'

instance (k : ObjectKey) : Decidable k.PathSafe :=
  decidable_of_iff (k.ns.toList.all (fun c => c != '/' && c != '?' && c != '#') ∧
      k.name.toList.all fun c => c != '?' && c != '#')
    ⟨fun h => ⟨by simpa [and_assoc] using h.1, by simpa using h.2⟩,
      fun h => ⟨by simpa [and_assoc] using h.1, by simpa using h.2⟩⟩

section Paths

variable {cluster : ObjectKey} {s t : String}

def secretPath (cluster : ObjectKey) : String :=
  secretsOf cluster.clusterSecret.ns ++ "/" ++ cluster.clusterSecret.name

def NoDelimiter (s : String) : Prop := ∀ c ∈ s.toList, c ≠ '?' ∧ c ≠ '#'

instance (s : String) : Decidable (NoDelimiter s) :=
  decidable_of_iff (s.toList.all fun c => c != '?' && c != '#') (by simp [NoDelimiter])

theorem NoDelimiter.append (hs : NoDelimiter s) (ht : NoDelimiter t) : NoDelimiter (s ++ t) := by
  unfold NoDelimiter
  rw [String.toList_append]
  exact List.forall_mem_append.mpr ⟨hs, ht⟩

theorem NoDelimiter.cut (hs : NoDelimiter s) :
    (s.toList.takeWhile (· != '#')).takeWhile (· != '?') = s.toList := by
  have hf : ∀ c ∈ s.toList, (c != '#') = true := fun c hc => by simpa using (hs c hc).2
  have hq : ∀ c ∈ s.toList, (c != '?') = true := fun c hc => by simpa using (hs c hc).1
  rw [Target.takeWhile_all hf, Target.takeWhile_all hq]

theorem Target.parse_whole {path query : String} (hs : NoDelimiter s)
    (h : parse s = .ok (path, query)) : path = s := by
  rw [parse_path h, hs.cut, String.ofList_toList]

theorem Target.parse_noDelimiter {path query : String} (hs : NoDelimiter s)
    (h : parse (s ++ "?" ++ t) = .ok (path, query)) : path = s := by
  have hl : (s ++ "?" ++ t).toList = s.toList ++ '?' :: t.toList := by simp
  rw [parse_path h, hl, takeWhile_query, hs.cut, String.ofList_toList]

theorem NoDelimiter.collection (hs : NoDelimiter s) (ht : NoDelimiter t) :
    NoDelimiter (TokenCourier.collection s t) := by
  have hp : NoDelimiter "/api/v1/namespaces/" := by decide
  exact ((hp.append hs).append (by decide)).append ht

theorem ObjectKey.PathSafe.collection (hu : cluster.PathSafe) :
    NoDelimiter (secretsOf cluster.clusterSecret.ns) :=
  NoDelimiter.collection (fun c hc => (hu.ns c hc).2) (by decide)

theorem ObjectKey.PathSafe.path (hu : cluster.PathSafe) : NoDelimiter (secretPath cluster) := by
  have hn : NoDelimiter cluster.name := hu.name
  have ht : NoDelimiter "-cluster-secret" := by decide
  exact (hu.collection.append (by decide)).append (hn.append ht)

theorem reaches_pathSafe {path : String} (hu : cluster.PathSafe) (h : cluster.Reaches path) :
    path = secretPath cluster := by
  cases h with
  | deletes hp =>
    obtain ⟨-, -, q, hp⟩ := Request.buildNamed_ok hp
    rw [← String.append_empty (s := _ ++ "?")] at hp
    exact Target.parse_noDelimiter hu.path hp
  | replaces hg hp =>
    obtain ⟨-, -, q, hp⟩ := Request.buildNamed_ok hp
    rw [Request.manager_eq, ← String.append_assoc] at hp
    exact Target.parse_noDelimiter hu.path hp
  | creates hg hp =>
    obtain ⟨-, -, q, hp⟩ := Request.build_ok hp
    rw [Request.manager_eq, ← String.append_assoc] at hp
    rw [Target.parse_noDelimiter hu.collection hp]
    rfl

theorem secretPath_inj {c d : ObjectKey} (hc : OneSegment c.ns) (hd : OneSegment d.ns)
    (h : secretPath c = secretPath d) : c = d := by
  obtain ⟨hn, -, hs⟩ := object_inj hc hd (by decide) (by decide) h
  have hm : c.name = d.name := (String.append_left_inj _).mp hs
  cases c
  cases d
  cases hn
  cases hm
  rfl

end Paths

/-- Whatever is reconciled for the two clusters and whatever the servers answer, no object is
written for both. -/
def HubWritesApart (c d : ObjectKey) : Prop :=
  ∀ ⦃σ τ : Type⦄ (serve : σ → Server → Request → Answer × σ)
    (serve' : τ → Server → Request → Answer × τ) (st : σ) (st' : τ) (key key' : ObjectKey),
    ∀ q ∈ hubWrites serve c key st, ∀ q' ∈ hubWrites serve' d key' st',
      q.request.addressed? ≠ q'.request.addressed?

theorem shared_of_reaches {c d : ObjectKey} {path : String} (hc : c.Reaches path)
    (hd : d.Reaches path) : ¬ HubWritesApart c d := by
  intro ha
  obtain ⟨f, key, q, hq, hp⟩ := reaches_written hc
  obtain ⟨f', key', q', hq', hp'⟩ := reaches_written hd
  exact ha (stateless f) (stateless f') () () key key' q hq q' hq' (hp.trans hp'.symm)

/-- No object is written for both of two clusters exactly if there is no path that both reach.
Different clusters reach none in common if no character in their names ends its part of a path. -/
theorem hub_writes_apart_iff (c d : ObjectKey) :
    (HubWritesApart c d ↔ ∀ path, c.Reaches path → ¬ d.Reaches path) ∧
      (c.PathSafe → d.PathSafe → c ≠ d → HubWritesApart c d) := by
  have hi : HubWritesApart c d ↔ ∀ path, c.Reaches path → ¬ d.Reaches path := by
    constructor
    · exact fun ha path hc hd => shared_of_reaches hc hd ha
    · intro hr σ τ serve serve' st st' key key' q hq q' hq' he
      obtain ⟨path, hc, hp⟩ := hubWrites_reach hq
      obtain ⟨path', hd, hp'⟩ := hubWrites_reach hq'
      cases hp.symm.trans (he.trans hp')
      exact hr path hc hd
  refine ⟨hi, fun hc hd hn => hi.mpr fun path hpc hpd => hn ?_⟩
  have he := (reaches_pathSafe hc hpc).symm.trans (reaches_pathSafe hd hpd)
  exact secretPath_inj (fun hm => (hc.ns '/' hm).1 rfl) (fun hm => (hd.ns '/' hm).1 rfl) he

theorem fleet_members_apart :
    let c : ObjectKey := ⟨"prod", "fleet"⟩
    let d : ObjectKey := ⟨"dev", "fleet"⟩
    c.PathSafe ∧ d.PathSafe ∧ c ≠ d ∧ HubWritesApart c d ∧
      Written c "/api/v1/namespaces/fleet/secrets/prod-cluster-secret" ∧
      Written d "/api/v1/namespaces/fleet/secrets/dev-cluster-secret" := by
  intro c d
  have hc : c.PathSafe := by decide
  have hd : d.PathSafe := by decide
  have hn : c ≠ d := by decide
  have hw := (hub_writes_apart_iff c d).2 hc hd hn
  have hpc : Request.delete (secretsOf c.clusterSecret.ns) c.clusterSecret.name
      = .ok ⟨.delete, "/api/v1/namespaces/fleet/secrets/prod-cluster-secret", "", "\x7b\x7d"⟩ := by
    decide
  have hpd : Request.delete (secretsOf d.clusterSecret.ns) d.clusterSecret.name
      = .ok ⟨.delete, "/api/v1/namespaces/fleet/secrets/dev-cluster-secret", "", "\x7b\x7d"⟩ := by
    decide
  exact ⟨hc, hd, hn, hw, deletes_written hpc, deletes_written hpd⟩

/-- A question mark leads one cluster to the secret of another. -/
theorem redirected_deletion : ∃ lookup lookup' c d,
    Config.load lookup = .ok c ∧ Config.load lookup' = .ok d ∧
      c.cluster = ⟨"prod", "fleet"⟩ ∧ d.cluster = ⟨"prod-cluster-secret?", "fleet"⟩ ∧
      ¬ HubWritesApart c.cluster d.cluster := by
  obtain ⟨lookup, c, hl, hc⟩ := Config.cluster_accepted ⟨"prod", "fleet"⟩
  obtain ⟨lookup', d, hl', hd⟩ := Config.cluster_accepted ⟨"prod-cluster-secret?", "fleet"⟩
  refine ⟨lookup, lookup', c, d, hl, hl', hc, hd, ?_⟩
  rw [hc, hd]
  have hp : Request.delete (secretsOf "fleet") "prod-cluster-secret"
      = .ok ⟨.delete, "/api/v1/namespaces/fleet/secrets/prod-cluster-secret", "", "\x7b\x7d"⟩ := by
    decide
  have hq : Request.delete (secretsOf "fleet") "prod-cluster-secret?-cluster-secret"
      = .ok ⟨.delete, "/api/v1/namespaces/fleet/secrets/prod-cluster-secret",
        "-cluster-secret?", "\x7b\x7d"⟩ := by
    decide
  have hpc : ObjectKey.Reaches ⟨"prod", "fleet"⟩ _ := .deletes hp
  have hpd : ObjectKey.Reaches ⟨"prod-cluster-secret?", "fleet"⟩ _ := .deletes hq
  exact shared_of_reaches hpc hpd

end TokenCourier
