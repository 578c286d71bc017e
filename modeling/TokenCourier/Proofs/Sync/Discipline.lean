import TokenCourier.Proofs.Api.Replies
import TokenCourier.Proofs.Sync.Course

namespace TokenCourier

def Answer.Absent (a : Answer) : Prop := ∃ e, a.text = .error e ∧ e.saysNotFound

structure Asked.Gets (q : Asked) (s : Server) (collection name : String) : Prop where
  server : q.server = s
  request : Request.get collection name = .ok q.request

/-- The write was carried out, or is the error of the reconciliation. -/
def Undertook (w : Write) (cluster : ObjectKey) (r : Except SyncError Outcome) : Prop :=
  r = .ok w.outcome ∨ ∃ e, r = .error (.write w (toString cluster.clusterSecret) e)

/-- The reads of a cluster whose service account is there and whose token was found. -/
inductive Prepared (key : ObjectKey) : List Asked → Prop where
  | intro {q₁ q₂ q₃ q₄ : Asked} {sa account : ServiceAccount} {name t : String} {s : Secret} :
      q₁.Gets .cluster (serviceAccountsOf key.ns) key.name →
      q₁.answer.object ServiceAccount.decode? = .ok sa →
      q₂.Gets .cluster (serviceAccountsOf tokenAccount.ns) tokenAccount.name →
      q₂.answer.object ServiceAccount.decode? = .ok account → account.dockercfg? = some name →
      q₃.Gets .cluster (secretsOf tokenAccount.ns) name →
      q₃.answer.object Secret.decode? = .ok s → s.annotation? tokenValue = some t → t ≠ "" →
      q₄.Gets .cluster (Infrastructure.collectionPath none) "cluster" →
      Prepared key [q₁, q₂, q₃, q₄]

/-- Why a reconciliation can fail. That there is no address to publish is no reason. -/
def SyncError.Arises (cluster : ObjectKey) : SyncError → Prop
  | .client _ | .tokenNotFound _ => True
  | .write _ name _ => name = toString cluster.clusterSecret
  | .hubConfig _ | .serverAddress _ | .serialization _ => False

def methodsAt (s : Server) (qs : List Asked) : List Method :=
  (qs.filter (·.server = s)).map (·.request.method)

structure Disciplined (cluster key : ObjectKey) (qs : List Asked) (r : Except SyncError Outcome) :
    Prop where
  clusterReads : ∀ q ∈ qs, q.server = .cluster → q.request.method = .get
  writesLast : ∀ q ∈ qs.dropLast, q.request.method = .get
  hub : methodsAt .hub qs ∈ [[], [.delete], [.get], [.get, .post], [.get, .put]]
  first : ∀ q ∈ qs.head?, q.Gets .cluster (serviceAccountsOf key.ns) key.name
  absent : ∀ q ps, qs = q :: ps → q.answer.Absent →
    (∀ p ∈ ps, p.server = .hub) ∧ Undertook .delete cluster r
  deletes : ∀ q ∈ qs, q.request.method = .delete → ∃ p, qs = [p, q] ∧ p.answer.Absent
  creates : ∀ q ∈ qs, q.request.method = .post → ∃ ps g, qs = ps ++ [g, q] ∧ Prepared key ps ∧
    g.Gets .hub (secretsOf cluster.clusterSecret.ns) cluster.clusterSecret.name ∧
    g.answer.Absent ∧ Undertook .create cluster r
  replaces : ∀ q ∈ qs, q.request.method = .put → ∃ ps g, qs = ps ++ [g, q] ∧ Prepared key ps ∧
    g.Gets .hub (secretsOf cluster.clusterSecret.ns) cluster.clusterSecret.name ∧
    (∃ s, g.answer.object Secret.decode? = .ok s) ∧ Undertook .update cluster r
  unread : ∀ e, r = .error (.client e) → ∀ q ∈ qs, q.request.method = .get
  unresolved : ∀ m, r = .error (.tokenNotFound m) → ∀ q ∈ qs, q.server = .cluster
  errors : ∀ e, r = .error e → e.Arises cluster

theorem Target.parse_path {target path query : String} (h : parse target = .ok (path, query)) :
    path = String.ofList ((target.toList.takeWhile (· != '#')).takeWhile (· != '?')) := by
  unfold parse at h
  split at h
  · cases h
  · dsimp only at h
    split at h
    · cases h
      rfl
    · cases h

namespace Request

variable {m : Method} {target collection name suffix body : String} {r : Request}

theorem build_ok (h : build m target body = .ok r) :
    r.method = m ∧ r.body = body ∧ ∃ query, Target.parse target = .ok (r.path, query) := by
  rw [build] at h
  cases hp : Target.parse target with
  | error f =>
    rw [hp] at h
    cases h
  | ok t =>
    rw [hp] at h
    cases h
    exact ⟨rfl, rfl, t.2, rfl⟩

theorem buildNamed_ok (h : buildNamed m collection name suffix body = .ok r) :
    r.method = m ∧ r.body = body ∧
      ∃ query, Target.parse (collection ++ "/" ++ name ++ suffix) = .ok (r.path, query) := by
  rw [buildNamed] at h
  split at h
  · cases h
  · exact build_ok h

end Request

theorem absentAsNone_none {α : Type} {f : Json → Option α} {a : Answer} :
    absentAsNone (a.object f) = .ok none ↔ a.Absent := by
  unfold Answer.object Answer.Absent
  cases ht : a.text with
  | error e =>
    change absentAsNone (.error e) = _ ↔ _
    by_cases hs : e.saysNotFound <;> simp [absentAsNone, hs]
  | ok t =>
    cases hj : (Json.read? t).bind f with
    | none => simp [Except.bind, hj, absentAsNone, ClientError.saysNotFound]
    | some x => simp [Except.bind, hj, absentAsNone]

theorem absentAsNone_some {α : Type} {x : Except ClientError α} {v : α}
    (h : absentAsNone x = .ok (some v)) : x = .ok v := by
  cases x with
  | ok w =>
    cases h
    rfl
  | error e =>
    rw [absentAsNone] at h
    split at h <;> cases h

theorem Asked.Gets.method {q : Asked} {s : Server} {collection name : String}
    (h : q.Gets s collection name) : q.request.method = .get :=
  (Request.buildNamed_ok h.request).1

namespace Exchange

section Calls

variable {α : Type} {s : Server} {collection name : String} {f : Json → Option α}
  {req : Except RequestFault Request} {read : Answer → Except ClientError α} {m : Method}
  {qs : List Asked} {x : Except ClientError α} {v : α}

theorem Called.written (h : Called s req read qs x) (hm : ∀ r, req = .ok r → r.method = m) :
    qs = [] ∨ ∃ q, qs = [q] ∧ q.server = s ∧ q.request.method = m := by
  cases h with
  | unbuilt => exact .inl rfl
  | answered a hr => exact .inr ⟨_, rfl, rfl, hm _ hr⟩

theorem Called.read_ok (h : Called s (Request.get collection name) (·.object f) qs (.ok v)) :
    ∃ q : Asked, qs = [q] ∧ q.Gets s collection name ∧ q.answer.object f = .ok v := by
  generalize hx : Except.ok v = x at h
  cases h with
  | unbuilt => cases hx
  | answered a hr => exact ⟨_, rfl, ⟨rfl, hr⟩, rfl⟩

theorem Called.read_absent (h : Called s (Request.get collection name) (·.object f) qs x)
    (hx : absentAsNone x = .ok none) :
    ∃ q : Asked, qs = [q] ∧ q.Gets s collection name ∧ q.answer.Absent := by
  cases h with
  | unbuilt => cases hx
  | answered a hr => exact ⟨_, rfl, ⟨rfl, hr⟩, absentAsNone_none.mp hx⟩

theorem Called.read_error {e : ClientError}
    (h : Called s (Request.get collection name) (·.object f) qs x)
    (hx : absentAsNone x = .error e) :
    qs = [] ∨ ∃ q : Asked, qs = [q] ∧ q.Gets s collection name ∧ ¬ q.answer.Absent := by
  cases h with
  | unbuilt => exact .inl rfl
  | answered a hr =>
    refine .inr ⟨_, rfl, ⟨rfl, hr⟩, fun ha => ?_⟩
    rw [absentAsNone_none.mpr ha] at hx
    cases hx

theorem Called.asks (h : Called s req read qs x) :
    ∀ q ∈ qs, q.server = s ∧ req = .ok q.request := by
  cases h with
  | unbuilt => simp
  | answered a hr => simpa using hr

theorem Called.of_built {r : Request} (h : Called s req read qs x) (hr : req = .ok r) :
    ∃ a, qs = [⟨s, r, a⟩] ∧ x = read a := by
  cases h with
  | unbuilt he => cases hr.symm.trans he
  | answered a he =>
    cases hr.symm.trans he
    exact ⟨a, rfl, rfl⟩

theorem Called.gets (h : Called s (Request.get collection name) read qs x) :
    ∀ q ∈ qs, q.Gets s collection name :=
  fun q hq => ⟨(h.asks q hq).1, (h.asks q hq).2⟩

end Calls

section Courses

variable {cluster key : ObjectKey} {qs ps us : List Asked} {t : String}

theorem Search.gets {z : Except TokenCause String} (h : Search qs z) :
    ∀ q ∈ qs, q.server = .cluster ∧ q.request.method = .get := by
  have hr : ∀ {q : Asked} {collection name : String}, q.Gets .cluster collection name →
      q.server = .cluster ∧ q.request.method = .get := fun hg => ⟨hg.server, hg.method⟩
  intro q hq
  cases h with
  | serviceAccount ha | noSecret ha _ => exact hr (ha.gets q hq)
  | secret ha _ hs | noValue ha _ hs _ | found ha _ hs _ =>
    obtain hq | hq := List.mem_append.mp hq
    · exact hr (ha.gets q hq)
    · exact hr (hs.gets q hq)

theorem asks_infrastructure {y : Except ClientError Infrastructure}
    (h : InfrastructureRead us y) :
    ∃ q : Asked, us = [q] ∧ q.Gets .cluster (Infrastructure.collectionPath none) "cluster" := by
  cases h with
  | unbuilt he =>
    have hb : (Request.get (Infrastructure.collectionPath none) "cluster").toBool := by
      decide
    rw [he] at hb
    cases hb
  | answered a hr => exact ⟨_, rfl, rfl, hr⟩

theorem prepared {x : Except ClientError ServiceAccount} {sa : ServiceAccount}
    {y : Except ClientError Infrastructure} (hx : AccountRead .cluster key qs x)
    (ha : absentAsNone x = .ok (some sa)) (ht : Search ps (.ok t)) (hi : InfrastructureRead us y) :
    Prepared key (qs ++ (ps ++ us)) := by
  obtain rfl := absentAsNone_some ha
  obtain ⟨q₁, rfl, hg₁, h₁⟩ := hx.read_ok
  cases ht with
  | found hb hn hs hv =>
    obtain ⟨q₂, rfl, hg₂, h₂⟩ := hb.read_ok
    obtain ⟨q₃, rfl, hg₃, h₃⟩ := hs.read_ok
    obtain ⟨q₄, rfl, hg₄⟩ := asks_infrastructure hi
    obtain ⟨hv, hne⟩ := Option.filter_eq_some_iff.mp hv
    exact .intro hg₁ h₁ hg₂ h₂ hn hg₃ h₃ hv (by simpa using hne) hg₄

end Courses

end Exchange

section Methods

variable {qs ps : List Asked}

theorem methodsAt_append (s : Server) (qs ps : List Asked) :
    methodsAt s (qs ++ ps) = methodsAt s qs ++ methodsAt s ps := by
  simp [methodsAt]

theorem methodsAt_hub_cluster (h : ∀ q ∈ qs, q.server = .cluster) : methodsAt .hub qs = [] := by
  rw [methodsAt, List.map_eq_nil_iff, List.filter_eq_nil_iff]
  intro q hq
  simp [h q hq]

end Methods

/-- The service account was read first, and was not said to be absent. -/
def AccountPresent (key : ObjectKey) (qs : List Asked) : Prop :=
  ∃ q ps, qs = q :: ps ∧ q.Gets .cluster (serviceAccountsOf key.ns) key.name ∧ ¬ q.answer.Absent

section AccountPresent

variable {key : ObjectKey} {qs ps : List Asked}

theorem AccountPresent.append (h : AccountPresent key qs) (ps : List Asked) :
    AccountPresent key (qs ++ ps) := by
  obtain ⟨q, us, rfl, hg, hn⟩ := h
  exact ⟨q, us ++ ps, rfl, hg, hn⟩

theorem AccountPresent.first (h : AccountPresent key qs) :
    ∀ q ∈ qs.head?, q.Gets .cluster (serviceAccountsOf key.ns) key.name := by
  obtain ⟨q, us, rfl, hg, -⟩ := h
  simpa using hg

theorem AccountPresent.not_absent (h : AccountPresent key qs) {q : Asked} (hq : qs = q :: ps) :
    ¬ q.answer.Absent := by
  obtain ⟨p, us, rfl, -, hn⟩ := h
  cases hq
  exact hn

theorem accountPresent_of_object {q : Asked} {sa : ServiceAccount}
    (hg : q.Gets .cluster (serviceAccountsOf key.ns) key.name)
    (ha : q.answer.object ServiceAccount.decode? = .ok sa) : AccountPresent key (q :: ps) := by
  refine ⟨q, ps, rfl, hg, fun hn => ?_⟩
  have h := absentAsNone_none (f := ServiceAccount.decode?).mpr hn
  rw [ha] at h
  cases h

theorem Prepared.accountPresent (h : Prepared key ps) : AccountPresent key ps := by
  cases h with
  | intro h₁ ho₁ => exact accountPresent_of_object h₁ ho₁

theorem Prepared.reads (h : Prepared key ps) :
    ∀ q ∈ ps, q.server = .cluster ∧ q.request.method = .get := by
  cases h with
  | intro h₁ _ h₂ _ _ h₃ _ _ _ h₄ =>
    simp [h₁.server, h₁.method, h₂.server, h₂.method, h₃.server, h₃.method, h₄.server, h₄.method]

end AccountPresent

section Undertook

variable {cluster : ObjectKey} {r : Except SyncError Outcome} {w : Write}

theorem Undertook.errors (h : Undertook w cluster r) : ∀ e, r = .error e → e.Arises cluster := by
  obtain rfl | ⟨c, rfl⟩ := h
  · simp
  · rintro e ⟨⟩
    exact rfl

theorem Undertook.read (h : Undertook w cluster r) (e : ClientError) : r ≠ .error (.client e) := by
  obtain rfl | ⟨c, rfl⟩ := h <;> simp

theorem Undertook.resolved (h : Undertook w cluster r) (m : String) :
    r ≠ .error (.tokenNotFound m) := by
  obtain rfl | ⟨c, rfl⟩ := h <;> simp

theorem undertook_result {α : Type} (w : Write) (y : Except ClientError α) :
    Undertook w cluster (w.result cluster y) := by
  cases y with
  | ok v => exact .inl rfl
  | error e => exact .inr ⟨e, rfl⟩

theorem undertook_departure (y : Except ClientError Unit) :
    Undertook .delete cluster (departure cluster y) := by
  cases y with
  | ok v => exact .inl rfl
  | error e =>
    rw [departure]
    split
    · exact .inl rfl
    · exact undertook_result _ _

end Undertook

namespace Disciplined

open Exchange

variable {cluster key : ObjectKey} {qs ps us : List Asked} {r : Except SyncError Outcome}

theorem of_reads (hg : ∀ q ∈ qs, q.request.method = .get)
    (hh : methodsAt .hub qs = [] ∨ methodsAt .hub qs = [.get])
    (hf : ∀ q ∈ qs.head?, q.Gets .cluster (serviceAccountsOf key.ns) key.name)
    (ha : ∀ q ps, qs = q :: ps → q.answer.Absent →
      (∀ p ∈ ps, p.server = .hub) ∧ Undertook .delete cluster r)
    (hu : ∀ m, r = .error (.tokenNotFound m) → ∀ q ∈ qs, q.server = .cluster)
    (he : ∀ e, r = .error e → e.Arises cluster) :
    Disciplined cluster key qs r where
  clusterReads q hq _ := hg q hq
  writesLast q hq := hg q (List.dropLast_subset qs hq)
  hub := by
    obtain hh | hh := hh <;> simp [hh]
  first := hf
  absent := ha
  deletes q hq hm := nomatch (hg q hq).symm.trans hm
  creates q hq hm := nomatch (hg q hq).symm.trans hm
  replaces q hq hm := nomatch (hg q hq).symm.trans hm
  unread _ _ := hg
  unresolved := hu
  errors := he

theorem of_unread {x : Except ClientError ServiceAccount} {e : ClientError}
    (h : AccountRead .cluster key qs x) (hx : absentAsNone x = .error e) :
    Disciplined cluster key qs (.error (.client e)) := by
  obtain rfl | ⟨q, rfl, hg, hn⟩ := h.read_error hx
  · exact of_reads (by simp) (.inl rfl) (by simp) (by simp) (by simp) (by simp [SyncError.Arises])
  · have hm : AccountPresent key [q] := ⟨q, [], rfl, hg, hn⟩
    exact of_reads (by simpa using hg.method)
      (.inl (methodsAt_hub_cluster (by simpa using hg.server))) hm.first
      (fun p ps hp ha => absurd ha (hm.not_absent hp)) (by simp) (by simp [SyncError.Arises])

theorem of_departs {x : Except ClientError ServiceAccount} {y : Except ClientError Unit}
    (h : AccountRead .cluster key qs x) (hx : absentAsNone x = .ok none)
    (hd : Called .hub
      (Request.delete (secretsOf cluster.clusterSecret.ns) cluster.clusterSecret.name)
      Answer.deleted ps y) :
    Disciplined cluster key (qs ++ ps) (departure cluster y) := by
  obtain ⟨q, rfl, hg, ha⟩ := h.read_absent hx
  have hu : Undertook .delete cluster (departure cluster y) := undertook_departure y
  obtain rfl | ⟨d, rfl, hs, hm⟩ := hd.written fun _ h => (Request.buildNamed_ok h).1
  · exact of_reads (by simpa using hg.method)
      (.inl (methodsAt_hub_cluster (by simpa using hg.server))) (by simpa using hg)
      (by simpa using fun _ => hu) (fun m he => absurd he (hu.resolved m)) hu.errors
  · exact {
      clusterReads := by simp [hg.method, hs]
      writesLast := by simpa using hg.method
      hub := by simp [methodsAt, hg.server, hs, hm]
      first := by simpa using hg
      absent := by
        rintro p ps hp -
        cases hp
        exact ⟨by simpa using hs, hu⟩
      deletes := by simpa [hg.method, hm] using ha
      creates := by simp [hg.method, hm]
      replaces := by simp [hg.method, hm]
      unread := fun e he => absurd he (hu.read e)
      unresolved := fun m he => absurd he (hu.resolved m)
      errors := hu.errors }

theorem of_unresolved {x : Except ClientError ServiceAccount} {sa : ServiceAccount} {c : TokenCause}
    (h : AccountRead .cluster key qs x) (hx : absentAsNone x = .ok (some sa))
    (hs : Search ps (.error c)) :
    Disciplined cluster key (qs ++ ps) (.error (.tokenNotFound c.message)) := by
  obtain rfl := absentAsNone_some hx
  obtain ⟨q, rfl, hg, ho⟩ := h.read_ok
  have hm : AccountPresent key ([q] ++ ps) := accountPresent_of_object hg ho
  have hq : ∀ p ∈ [q] ++ ps, p.server = .cluster ∧ p.request.method = .get := by
    simpa using ⟨⟨hg.server, hg.method⟩, hs.gets⟩
  exact of_reads (fun p hp => (hq p hp).2) (.inl (methodsAt_hub_cluster fun p hp => (hq p hp).1))
    hm.first (fun p ps hp ha => absurd ha (hm.not_absent hp))
    (fun _ _ p hp => (hq p hp).1) (by simp [SyncError.Arises])

section Prepared

variable (hp : Prepared key ps)

include hp

theorem of_read (hu : ∀ q ∈ us, q.server = .hub ∧ q.request.method = .get)
    (hl : us = [] ∨ ∃ q, us = [q]) (ht : ∀ m, r ≠ .error (.tokenNotFound m))
    (he : ∀ e, r = .error e → e.Arises cluster) :
    Disciplined cluster key (ps ++ us) r := by
  have hm : AccountPresent key (ps ++ us) := hp.accountPresent.append us
  have hh : methodsAt .hub (ps ++ us) = methodsAt .hub us := by
    rw [methodsAt_append, methodsAt_hub_cluster fun q hq => (hp.reads q hq).1, List.nil_append]
  refine of_reads ?_ ?_ hm.first (fun q vs hq ha => absurd ha (hm.not_absent hq))
    (fun m he => absurd he (ht m)) he
  · exact List.forall_mem_append.mpr ⟨fun q hq => (hp.reads q hq).2, fun q hq => (hu q hq).2⟩
  · rw [hh]
    obtain rfl | ⟨q, rfl⟩ := hl
    · exact .inl rfl
    · obtain ⟨hs, hm⟩ := hu q (List.mem_singleton_self q)
      exact .inr (by simp [methodsAt, hs, hm])

theorem of_write {g w : Asked}
    (hg : g.Gets .hub (secretsOf cluster.clusterSecret.ns) cluster.clusterSecret.name)
    (hs : w.server = .hub)
    (hw : w.request.method = .post ∧ g.answer.Absent ∧ Undertook .create cluster r ∨
      w.request.method = .put ∧ (∃ s, g.answer.object Secret.decode? = .ok s) ∧
        Undertook .update cluster r) :
    Disciplined cluster key (ps ++ [g, w]) r := by
  have hm : AccountPresent key (ps ++ [g, w]) := hp.accountPresent.append [g, w]
  have hh : methodsAt .hub (ps ++ [g, w]) = [.get, w.request.method] := by
    rw [methodsAt_append, methodsAt_hub_cluster fun q hq => (hp.reads q hq).1, List.nil_append]
    simp [methodsAt, hg.server, hg.method, hs]
  obtain ⟨v, hu⟩ : ∃ v, Undertook v cluster r := by
    obtain ⟨-, -, hu⟩ | ⟨-, -, hu⟩ := hw <;> exact ⟨_, hu⟩
  have hr : ∀ q ∈ ps ++ [g], q.request.method = .get := by
    simpa [or_imp, forall_and, hg.method] using fun q hq => (hp.reads q hq).2
  have hlast : ∀ q ∈ ps ++ [g, w], q.request.method ≠ .get → q = w := by
    intro q hq hne
    rw [List.append_cons, List.mem_append, List.mem_singleton] at hq
    exact hq.resolve_left fun hq => hne (hr q hq)
  exact {
    clusterReads := by
      intro q hq hc
      by_cases hd : q.request.method = .get
      · exact hd
      · rw [hlast q hq hd, hs] at hc
        cases hc
    writesLast := by
      rwa [List.append_cons, List.dropLast_concat]
    hub := by obtain ⟨hw, -⟩ | ⟨hw, -⟩ := hw <;> simp [hh, hw]
    first := hm.first
    absent := fun q vs hq ha => absurd ha (hm.not_absent hq)
    deletes := by
      intro q hq hd
      have hqw := hlast q hq (by simp [hd])
      obtain ⟨hw, -⟩ | ⟨hw, -⟩ := hw <;> simp [← hqw, hd] at hw
    creates := by
      intro q hq hd
      obtain rfl := hlast q hq (by simp [hd])
      obtain ⟨-, ha, hu⟩ | ⟨hw, -⟩ := hw
      · exact ⟨ps, g, rfl, hp, hg, ha, hu⟩
      · simp [hd] at hw
    replaces := by
      intro q hq hd
      obtain rfl := hlast q hq (by simp [hd])
      obtain ⟨hw, -⟩ | ⟨-, ho, hu⟩ := hw
      · simp [hd] at hw
      · exact ⟨ps, g, rfl, hp, hg, ho, hu⟩
    unread := fun e he => absurd he (hu.read e)
    unresolved := fun m he => absurd he (hu.resolved m)
    errors := hu.errors }

theorem of_writing {g : Asked} {vs : List Asked} {m : Method}
    (hg : g.Gets .hub (secretsOf cluster.clusterSecret.ns) cluster.clusterSecret.name)
    (hv : vs = [] ∨ ∃ w, vs = [w] ∧ w.server = .hub ∧ w.request.method = m)
    (hw : m = .post ∧ g.answer.Absent ∧ Undertook .create cluster r ∨
      m = .put ∧ (∃ s, g.answer.object Secret.decode? = .ok s) ∧ Undertook .update cluster r) :
    Disciplined cluster key (ps ++ ([g] ++ vs)) r := by
  obtain rfl | ⟨w, rfl, hs, rfl⟩ := hv
  · obtain ⟨-, -, hu⟩ | ⟨-, -, hu⟩ := hw <;>
      exact of_read hp (by simpa using ⟨hg.server, hg.method⟩) (by simp) hu.resolved hu.errors
  · exact of_write hp hg hs hw

theorem of_delivery {s : Secret} (h : Delivery cluster s us r) :
    Disciplined cluster key (ps ++ us) r := by
  cases h with
  | unread hx he =>
    refine of_read hp ?_ ?_ (by simp) (by simp [SyncError.Arises])
    · exact fun q hq => ⟨(hx.gets q hq).server, (hx.gets q hq).method⟩
    · obtain rfl | ⟨q, rfl, -⟩ := hx.read_error he <;> simp
  | creates hx ha hy =>
    obtain ⟨g, rfl, hg, ha⟩ := hx.read_absent ha
    exact of_writing hp hg (hy.written fun _ h => (Request.build_ok h).1)
      (.inl ⟨rfl, ha, undertook_result _ _⟩)
  | replaces hx ho hy =>
    obtain rfl := absentAsNone_some ho
    obtain ⟨g, rfl, hg, ho⟩ := hx.read_ok
    exact of_writing hp hg (hy.written fun _ h => (Request.buildNamed_ok h).1)
      (.inr ⟨rfl, ⟨_, ho⟩, undertook_result _ _⟩)

end Prepared

theorem of_course (h : Course cluster key qs r) : Disciplined cluster key qs r := by
  cases h with
  | unread h hx => exact of_unread h hx
  | departs h hx hd => exact of_departs h hx hd
  | unresolved h hx hs => exact of_unresolved h hx hs
  | publishes h hx ht hi hd => exact of_delivery (prepared h hx ht hi) hd

end Disciplined

/-- Whatever the servers answer, the hub is written once at most, last, and only after the reads
that call for it. -/
theorem reconcile_disciplined {σ : Type} (serve : σ → Server → Request → Answer × σ)
    (cluster key : ObjectKey) (st : σ) :
    let run := (Exchange.reconcile cluster key).run serve st
    let said := (Exchange.reconcile cluster key).transcript serve st
    said.map Said.entry = run.2.1 ∧ Disciplined cluster key (calls said) run.1 := by
  intro run said
  refine ⟨Exchange.transcript_entries serve _ st, .of_course ?_⟩
  exact Exchange.reconcile_yields cluster key said run.1 (Exchange.transcript_runsTo serve _ st)

end TokenCourier
