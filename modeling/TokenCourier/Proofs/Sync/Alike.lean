import TokenCourier.Proofs.Api.Similar
import TokenCourier.Proofs.Json.Amended
import TokenCourier.Proofs.Sync.Discipline

namespace TokenCourier

open Json

/-- Both fail with the same error, or both come to related values. -/
inductive Agree {ε α β : Type} (P : α → β → Prop) : Except ε α → Except ε β → Prop where
  | error (e : ε) : Agree P (.error e) (.error e)
  | ok {a b} : P a b → Agree P (.ok a) (.ok b)

theorem Agree.mono {ε α β : Type} {P Q : α → β → Prop} {x : Except ε α} {y : Except ε β}
    (h : Agree P x y) (hp : ∀ a b, P a b → Q a b) : Agree Q x y := by
  cases h with
  | error e => exact .error e
  | ok h => exact .ok (hp _ _ h)

theorem agree_self {ε α : Type} {P : α → α → Prop} (hp : ∀ a, P a a) (x : Except ε α) :
    Agree P x x := by
  cases x with
  | error e => exact .error e
  | ok a => exact .ok (hp a)

/-- A write to the hub with the value in its body changed; other requests stay as they are. -/
def amendBody (f : Json → Json) (s : Server) (r : Request) : Request :=
  if s = .hub ∧ (r.method = .post ∨ r.method = .put) then
    { r with body := amendText Json.compact f r.body }
  else r

theorem amendBody_keeps (f : Json → Json) (s : Server) {r q : Request}
    (h : amendBody f s r = amendBody f s q) :
    r.method = q.method ∧ r.path = q.path ∧ r.query = q.query := by
  have hk : ∀ r, (amendBody f s r).method = r.method ∧ (amendBody f s r).path = r.path ∧
      (amendBody f s r).query = r.query := by
    intro r
    rw [amendBody]
    split <;> exact ⟨rfl, rfl, rfl⟩
  obtain ⟨hm, hp, hq⟩ := hk r
  obtain ⟨hm', hp', hq'⟩ := hk q
  rw [h] at hm hp hq
  exact ⟨hm.symm.trans hm', hp.symm.trans hp', hq.symm.trans hq'⟩

def Answer.SameVersion (a b : Answer) : Prop :=
  Agree (fun s s' : Secret => s.metadata.resourceVersion = s'.metadata.resourceVersion)
    (a.object Secret.decode?) (b.object Secret.decode?)

def HubAnswers (r : Request) (a b : Answer) : Prop :=
  a = b ∨ r.method ≠ .delete ∧ a.SameVersion b

/-- The view does not see what `f` changes in a secret of the hub. -/
structure View.Ignores (V : View) (f : Json → Json) : Prop where
  request : V.request = amendBody f
  hub : ∀ r a b, V.Swaps .hub r a b → HubAnswers r a b

theorem HubAnswers.same {r : Request} {a b : Answer} (h : HubAnswers r a b)
    (hm : r.method = .delete) : a = b := by
  obtain h | ⟨hn, -⟩ := h
  · exact h
  · exact absurd hm hn

theorem HubAnswers.versions {r : Request} {a b : Answer} (h : HubAnswers r a b) :
    a.SameVersion b := by
  obtain rfl | ⟨-, h⟩ := h
  · rw [Answer.SameVersion]
    apply agree_self
    exact fun _ => rfl
  · exact h

/-- The secrets differ in nothing but what `f` changes, also in the place of others. -/
structure Secret.Alike (f : Json → Json) (s s' : Secret) : Prop where
  created : f s.toJson = f s'.toJson
  replacing : ∀ current, f (s.replacing current).toJson = f (s'.replacing current).toJson

theorem amendBody_secret (f : Json → Json) {m : Method} (hm : m = .post ∨ m = .put)
    (path query : String) (s : Secret) :
    amendBody f .hub ⟨m, path, query, s.toJson.compact⟩
      = ⟨m, path, query, (f s.toJson).compact⟩ := by
  rw [amendBody, if_pos ⟨rfl, hm⟩, amendText_print (read?_compact _ s.plain_toJson)]

namespace Exchange

variable {α β : Type} {V : View} {f : Json → Json}

theorem write_similar {R : Except ClientError α → Except ClientError β → Prop} {s : Server}
    {m : Method} {target body body' : String} {read : Answer → Except ClientError α}
    {read' : Answer → Except ClientError β}
    (he : ∀ e, R (.error (.request e)) (.error (.request e)))
    (hr : ∀ r a b, V.Swaps s r a b → R (read a) (read' b))
    (hb : ∀ path query, V.request s ⟨m, path, query, body⟩ = V.request s ⟨m, path, query, body'⟩) :
    Similar V R (call s (Request.build m target body) read)
      (call s (Request.build m target body') read') := by
  rw [Request.build, Request.build]
  cases Target.parse target with
  | error e => exact .done (he e)
  | ok p => exact .call (hb p.1 p.2) (hr _)

theorem writeNamed_similar {R : Except ClientError α → Except ClientError β → Prop} {s : Server}
    {m : Method} {collection name suffix body body' : String}
    {read : Answer → Except ClientError α} {read' : Answer → Except ClientError β}
    (he : ∀ e, R (.error (.request e)) (.error (.request e)))
    (hr : ∀ r a b, V.Swaps s r a b → R (read a) (read' b))
    (hb : ∀ path query, V.request s ⟨m, path, query, body⟩ = V.request s ⟨m, path, query, body'⟩) :
    Similar V R (call s (Request.buildNamed m collection name suffix body) read)
      (call s (Request.buildNamed m collection name suffix body') read') := by
  rw [Request.buildNamed, Request.buildNamed]
  by_cases hn : name = ""
  · rw [if_pos hn, if_pos hn]
    exact .done (he _)
  · rw [if_neg hn, if_neg hn]
    exact write_similar he hr hb

variable (cluster : ObjectKey) {s s' : Secret}

theorem deleteClusterSecret_similar (hV : V.Ignores f) :
    Similar V Eq (deleteClusterSecret cluster) (deleteClusterSecret cluster) := by
  have hc : Similar V Eq
      (call .hub (Request.delete (secretsOf cluster.clusterSecret.ns) cluster.clusterSecret.name)
        Answer.deleted)
      (call .hub (Request.delete (secretsOf cluster.clusterSecret.ns) cluster.clusterSecret.name)
        Answer.deleted) :=
    .call_same (fun _ => rfl) fun r a b hr h =>
      congrArg _ ((hV.hub r a b h).same (Request.buildNamed_ok hr).1)
  rw [deleteClusterSecret]
  apply hc.bind
  rintro (e | u) _ rfl
  · by_cases he : e.isNotFound
    · simp only [he, if_true]
      exact .info (.done rfl)
    · simp only [he]
      exact .done rfl
  · exact .info (.done rfl)

theorem createClusterSecret_similar (hV : V.Ignores f) (hs : s.Alike f s') :
    Similar V Eq (createClusterSecret cluster s) (createClusterSecret cluster s') := by
  rw [createClusterSecret, createClusterSecret]
  refine .info (Similar.bind (write_similar (fun _ => .error _)
    (fun r a b h => (hV.hub r a b h).versions) fun path query => ?_) ?_)
  · rw [hV.request, amendBody_secret f (.inl rfl), amendBody_secret f (.inl rfl), hs.created]
  · intro x y hx
    cases hx with
    | error e => exact .done rfl
    | ok _ => exact .info (.done rfl)

theorem replaceClusterSecret_similar {current current' : Secret} (hV : V.Ignores f)
    (hs : s.Alike f s')
    (hc : current.metadata.resourceVersion = current'.metadata.resourceVersion) :
    Similar V Eq (replaceClusterSecret cluster current s)
      (replaceClusterSecret cluster current' s') := by
  have hr : f (s.replacing current).toJson = f (s'.replacing current').toJson := by
    rw [hs.replacing current, Secret.replacing, hc, Secret.replacing]
  rw [replaceClusterSecret, replaceClusterSecret]
  refine Similar.bind (writeNamed_similar (fun _ => .error _)
    (fun r a b h => (hV.hub r a b h).versions) fun path query => ?_) ?_
  · rw [hV.request, amendBody_secret f (.inr rfl), amendBody_secret f (.inr rfl)]
    exact congrArg (Request.mk _ _ _ ·.compact) hr
  · intro x y hx
    cases hx with
    | error e => exact .done rfl
    | ok _ => exact .info (.done rfl)

theorem applyClusterSecret_similar (hV : V.Ignores f) (hs : s.Alike f s') :
    Similar V Eq (applyClusterSecret cluster s) (applyClusterSecret cluster s') := by
  rw [applyClusterSecret, applyClusterSecret]
  refine Similar.bind (.call_same (fun _ => .error _)
    fun r a b _ h => (hV.hub r a b h).versions) ?_
  intro x y hx
  cases hx with
  | error e =>
    cases absentAsNone (.error e : Except ClientError Secret) with
    | error e => exact .done rfl
    | ok o =>
      cases o with
      | none => exact createClusterSecret_similar cluster hV hs
      | some current => exact replaceClusterSecret_similar cluster hV hs rfl
  | ok hc => exact replaceClusterSecret_similar cluster hV hs hc

theorem token_similar {T : String → String → Prop}
    (ha : ∀ r a b, Request.get (serviceAccountsOf tokenAccount.ns) tokenAccount.name = .ok r →
      V.Swaps .cluster r a b → Agree (fun sa sa' => sa.dockercfg? = sa'.dockercfg?)
        (a.object ServiceAccount.decode?) (b.object ServiceAccount.decode?))
    (hs : ∀ name r a b, Request.get (secretsOf tokenAccount.ns) name = .ok r →
      V.Swaps .cluster r a b → Agree
        (fun s s' => s.annotation? tokenName = s'.annotation? tokenName ∧
          Option.Rel T s.token? s'.token?)
        (a.object Secret.decode?) (b.object Secret.decode?)) :
    Similar V (Agree T) token token := by
  rw [token]
  refine Similar.bind (.call_same (fun f => .error _) ha) ?_
  intro x y hx
  cases hx with
  | error e => exact .done (.error _)
  | @ok sa sa' hd =>
    simp only [← hd]
    cases sa.dockercfg? with
    | none => exact .done (.error _)
    | some name =>
      refine .info (Similar.bind (.call_same (fun f => .error _) (hs name)) ?_)
      intro x y hx
      cases hx with
      | error e => exact .done (.error _)
      | @ok s s' hs =>
        obtain ⟨hn, ht⟩ := hs
        simp only [← hn]
        generalize s.token? = o at ht ⊢
        generalize s'.token? = o' at ht ⊢
        cases ht with
        | none =>
          cases s.annotation? tokenName with
          | none => exact .done (.error _)
          | some n => exact .info (.done (.error _))
        | some ht =>
          cases s.annotation? tokenName with
          | none => exact .done (.ok ht)
          | some n => exact .info (.done (.ok ht))

def addressed : Exchange String := do
  match ← serverAddress with
  | .ok a => pure a
  | .error e =>
    error (serverAddressFailure e).message
    pure ""

def deliver (token server : String) : Exchange (Except SyncError Outcome) := do
  logAll (ClusterSecret.build cluster token server).1
  applyClusterSecret cluster (ClusterSecret.build cluster token server).2

theorem publish_eq :
    publish cluster = token >>= fun
      | .error c => pure (.error (.tokenNotFound c.message))
      | .ok t => addressed >>= deliver cluster t := by
  unfold publish addressed
  congr 1
  funext x
  cases x with
  | error c => rfl
  | ok t =>
    dsimp only
    rw [bind_assoc]
    congr 1
    funext y
    cases y <;> rfl

section Lines

variable {R : α → β → Prop} {x : Exchange α} {y : Exchange β} {f : Unit → Exchange α}
  {g : Unit → Exchange β}

theorem logAll_same (ls : List LogLine) (h : Similar V R (f ()) (g ())) :
    Similar V R (logAll ls >>= f) (logAll ls >>= g) := by
  induction ls with
  | nil => exact h
  | cons l ls ih => exact .log ih

theorem logAll_left {ls : List LogLine} (hl : ∀ l ∈ ls, V.skips l = true)
    (h : Similar V R (f ()) y) : Similar V R (logAll ls >>= f) y := by
  induction ls with
  | nil => exact h
  | cons l ls ih =>
    obtain ⟨hl, hls⟩ := List.forall_mem_cons.mp hl
    exact .left hl (ih hls)

theorem logAll_right {ls : List LogLine} (hl : ∀ l ∈ ls, V.skips l = true)
    (h : Similar V R x (g ())) : Similar V R x (logAll ls >>= g) := by
  induction ls with
  | nil => exact h
  | cons l ls ih =>
    obtain ⟨hl, hls⟩ := List.forall_mem_cons.mp hl
    exact .right hl (ih hls)

end Lines

theorem publish_similar {T : String → String → Prop} {A : String → String → Prop}
    (ht : Similar V (Agree T) token token) (ha : Similar V A addressed addressed)
    (hd : ∀ t t' a a', T t t' → A a a' →
      Similar V Eq (deliver cluster t a) (deliver cluster t' a')) :
    Similar V Eq (publish cluster) (publish cluster) := by
  rw [publish_eq]
  apply ht.bind
  intro x y hx
  cases hx with
  | error c => exact .done rfl
  | ok ht => exact ha.bind fun a a' ha => hd _ _ _ _ ht ha

theorem reconcile_similar (key : ObjectKey) (hV : V.Ignores f)
    (ha : ∀ r a b, Request.get (serviceAccountsOf key.ns) key.name = .ok r →
      V.Swaps .cluster r a b → Agree (fun _ _ => True)
        (a.object ServiceAccount.decode?) (b.object ServiceAccount.decode?))
    (hp : Similar V Eq (publish cluster) (publish cluster)) :
    Similar V Eq (reconcile cluster key) (reconcile cluster key) := by
  rw [reconcile]
  refine .info (Similar.bind (.call_same (fun f => .error _) ha) ?_)
  intro x y hx
  cases hx with
  | error e =>
    cases absentAsNone (.error e : Except ClientError ServiceAccount) with
    | error e => exact .done rfl
    | ok o =>
      cases o with
      | none => exact .info (deleteClusterSecret_similar cluster hV)
      | some sa => exact hp
  | ok _ => exact hp

end Exchange

end TokenCourier
