import TokenCourier.Proofs.Api.Scripted
import TokenCourier.Proofs.Json.Indented
import TokenCourier.Proofs.Kube.Redacted
import TokenCourier.Proofs.Store.Answers
import TokenCourier.Proofs.Sync.Discipline

namespace TokenCourier

open Json

def Answer.json? (a : Answer) : Option Json := a.text.toOption.bind read?

section Annotations

variable {v : Json} {n t : String}

theorem stringsJson_of_strings? {ms : List (String × String)} (h : strings? v = some ms) :
    v = Secret.stringsJson ms := by
  cases v with
  | obj js =>
    induction js generalizing ms with
    | nil =>
      cases h
      rfl
    | cons j js ih =>
      obtain ⟨k, w⟩ := j
      rw [strings?_cons] at h
      obtain ⟨s, hs, h⟩ := Option.bind_eq_some_iff.mp h
      obtain ⟨rest, hr, rfl⟩ := Option.map_eq_some_iff.mp h
      have hw : w = .str s := by
        cases w with
        | str _ =>
          cases hs
          rfl
        | _ => cases hs
      have hj : Json.obj js = Secret.stringsJson rest := ih hr
      rw [Secret.stringsJson, obj.injEq] at hj
      rw [hw, hj, Secret.stringsJson, List.map_cons]
  | _ => cases h

theorem get?_stringsJson (ms : List (String × String)) (n : String) :
    (Secret.stringsJson ms).get? n = ((ms.reverse.find? (·.1 == n)).map (·.2)).map .str := by
  rw [Secret.stringsJson, get?, ← List.map_reverse, List.find?_map, Option.map_map, Option.map_map]
  rfl

theorem annotation_in_meta {m : ObjectMeta} (hm : ObjectMeta.decode? v = some m)
    (ht : ((m.annotations.getD []).reverse.find? (·.1 == n)).map (·.2) = some t) :
    v.at? ["annotations", n] = some (.str t) := by
  cases v with
  | obj ms =>
    simp only [ObjectMeta.decode?, members?, Option.bind_eq_bind, Option.bind_some,
      Option.bind_eq_some_iff, Option.some.injEq, guard] at hm
    obtain ⟨_, -, _, -, _, -, _, -, _, -, _, -, name, -, gen, -, ns, -, version, -, labels, -,
      notes, hn, rfl⟩ := hm
    obtain ⟨-, rfl⟩ | ⟨w, texts, hg, hw, rfl⟩ := last?_get hn
    · cases ht
    · rw [Option.getD_some] at ht
      rw [at?, hg, Option.bind_some, at?, stringsJson_of_strings? hw, get?_stringsJson, ht]
      rfl
  | _ => cases hm

theorem annotation_at {s : Secret} (hs : Secret.decode? v = some s)
    (ht : s.annotation? n = some t) : v.at? ["metadata", "annotations", n] = some (.str t) := by
  cases v with
  | obj ms =>
    simp only [Secret.decode?, members?, Option.bind_eq_bind, Option.bind_some,
      Option.bind_eq_some_iff, Option.some.injEq, guard] at hs
    obtain ⟨_, -, _, -, _, -, o, hm, data, -, rfl⟩ := hs
    obtain ⟨-, rfl⟩ | ⟨w, m, hg, hw, rfl⟩ := last?_get hm
    · cases ht
    · rw [at?, hg, Option.bind_some]
      exact annotation_in_meta hw ht
  | _ => cases hs

end Annotations

namespace ClusterSecret

/-- A cluster's secret as it is written, in the place of one of this version if there is one. -/
def written (cluster : ObjectKey) (token server : String) (version : Option String) : Secret :=
  { (build cluster token server).2 with
    metadata := { (build cluster token server).2.metadata with resourceVersion := version } }

end ClusterSecret

/-- A write `q` to the hub, and the answers that its token and its address come from: of the account
`q₂`, of the secret `q₃` that it links, and of the infrastructure `q₄`. -/
structure Composes (cluster : ObjectKey) (q₂ q₃ q₄ q : Asked) (t : String) : Prop where
  account : q₂.Gets .cluster (serviceAccountsOf tokenAccount.ns) tokenAccount.name
  linked : ∃ sa name, q₂.answer.object ServiceAccount.decode? = .ok sa ∧
    sa.dockercfg? = some name ∧ q₃.Gets .cluster (secretsOf tokenAccount.ns) name
  token : ∃ s, q₃.answer.object Secret.decode? = .ok s ∧ s.token? = some t
  infrastructure : q₄.Gets .cluster (Infrastructure.collectionPath none) "cluster"
  hub : q.server = .hub
  body : ∃ version, q.request.body = (ClusterSecret.written cluster t
    (addressOf (q₄.answer.object Infrastructure.decode?)) version).toJson.compact

namespace Exchange

variable {cluster key : ObjectKey} {qs ps : List Asked} {r : Except SyncError Outcome} {q : Asked}

theorem Called.sent {α : Type} {body : String} {req : Except RequestFault Request}
    {read : Answer → Except ClientError α} {x : Except ClientError α} {g : Asked}
    (h : Called .hub req read ps x) (hr : ∀ r, req = .ok r → r.body = body)
    (hg : g.request.method = .get) (hq : q ∈ [g] ++ ps) (hm : q.request.method ≠ .get) :
    ps = [q] ∧ q.server = .hub ∧ q.request.body = body := by
  cases h with
  | unbuilt =>
    obtain rfl : q = g := by simpa using hq
    exact absurd hg hm
  | answered a he =>
    rw [List.singleton_append, List.mem_cons, List.mem_singleton] at hq
    obtain rfl | rfl := hq
    · exact absurd hg hm
    · exact ⟨rfl, rfl, hr _ he⟩

theorem Delivery.composed {t address : String} (hq : q ∈ qs) (hm : q.request.method ≠ .get)
    (h : Delivery cluster (ClusterSecret.build cluster t address).2 qs r) :
    ∃ g version, qs = [g, q] ∧ q.server = .hub ∧
      q.request.body = (ClusterSecret.written cluster t address version).toJson.compact := by
  cases h with
  | unread hx => exact absurd (hx.gets q hq).method hm
  | creates hx ha hy =>
    obtain ⟨g, rfl, hg, -⟩ := hx.read_absent ha
    obtain ⟨rfl, hs, hb⟩ := hy.sent (fun _ h => (Request.build_ok h).2.1) hg.method hq hm
    exact ⟨g, none, rfl, hs, hb⟩
  | @replaces _ _ current _ _ hx ho hy =>
    obtain rfl := absentAsNone_some ho
    obtain ⟨g, rfl, hg, -⟩ := hx.read_ok
    obtain ⟨rfl, hs, hb⟩ := hy.sent (fun _ h => (Request.buildNamed_ok h).2.1) hg.method hq hm
    exact ⟨g, current.metadata.resourceVersion, rfl, hs, hb⟩

theorem infrastructure_answered {y : Except ClientError Infrastructure}
    (h : InfrastructureRead qs y) :
    ∃ q : Asked, qs = [q] ∧ q.Gets .cluster (Infrastructure.collectionPath none) "cluster" ∧
      y = q.answer.object Infrastructure.decode? := by
  obtain ⟨q, rfl, hg⟩ := asks_infrastructure h
  cases h with
  | answered a hr => exact ⟨_, rfl, hg, rfl⟩

/-- Only the last request of a course writes a secret, and only after all the reads. -/
theorem Course.composed (h : Course cluster key qs r) (hq : q ∈ qs)
    (hm : q.request.method = .post ∨ q.request.method = .put) :
    ∃ q₁ q₂ q₃ q₄ g t, qs = [q₁, q₂, q₃, q₄, g, q] ∧ Composes cluster q₂ q₃ q₄ q t := by
  have hm' : q.request.method ≠ .get := by obtain hm | hm := hm <;> simp [hm]
  cases h with
  | unread hx => exact absurd (hx.gets q hq).method hm'
  | departs hx _ hd =>
    obtain hq | hq := List.mem_append.mp hq
    · exact absurd (hx.gets q hq).method hm'
    · have hb := (Request.buildNamed_ok (hd.asks q hq).2).1
      rw [hb] at hm
      obtain hm | hm := hm <;> cases hm
  | unresolved hx _ ht =>
    obtain hq | hq := List.mem_append.mp hq
    · exact absurd (hx.gets q hq).method hm'
    · exact absurd (ht.gets q hq).2 hm'
  | publishes hx ho ht hi hd =>
    obtain hq | hq := List.mem_append.mp hq
    · exact absurd ((prepared hx ho ht hi).reads q hq).2 hm'
    obtain ⟨g, version, rfl, hs, hb⟩ := hd.composed hq hm'
    obtain rfl := absentAsNone_some ho
    obtain ⟨q₁, rfl, -⟩ := hx.read_ok
    obtain ⟨q₄, rfl, hg₄, rfl⟩ := infrastructure_answered hi
    cases ht with
    | found ha hn hk hv =>
      obtain ⟨q₂, rfl, hg₂, h₂⟩ := ha.read_ok
      obtain ⟨q₃, rfl, hg₃, h₃⟩ := hk.read_ok
      exact ⟨q₁, q₂, q₃, q₄, g, _, rfl, hg₂, ⟨_, _, h₂, hn, hg₃⟩, ⟨_, h₃, hv⟩, hg₄, hs, _, hb⟩

end Exchange

def Carries (cluster : ObjectKey) (t server body : String) : Prop :=
  ∃ v config, read? body = some v ∧
    v.at? ["stringData"] = some (.obj [("config", .str config), ("name", .str cluster.name),
      ("server", .str server)]) ∧
    read? config = some (.obj [("bearerToken", .str t),
      ("tlsClientConfig", .obj [("insecure", .bool true)])])

theorem written_carries (cluster : ObjectKey) (t server : String) (version : Option String) :
    Carries cluster t server (ClusterSecret.written cluster t server version).toJson.compact :=
  ⟨_, _, read?_compact _ (Secret.plain_toJson _), rfl, read?_pretty _ rfl⟩

theorem Composes.token_at {cluster : ObjectKey} {q₂ q₃ q₄ q : Asked} {t : String}
    (h : Composes cluster q₂ q₃ q₄ q t) :
    t ≠ "" ∧ (q₃.answer.json?.bind (at? tokenPath)) = some (.str t) := by
  obtain ⟨s, hs, ht⟩ := h.token
  obtain ⟨ht, hn⟩ := Option.filter_eq_some_iff.mp ht
  obtain ⟨text, hx, hd⟩ := Answer.object_ok hs
  obtain ⟨v, hv, hd⟩ := Option.bind_eq_some_iff.mp hd
  refine ⟨by simpa using hn, ?_⟩
  rw [Answer.json?, hx, Except.toOption, Option.bind_some, hv]
  exact annotation_at hd ht

/-- Whatever the servers answer, a secret that is written carries the very token that stands in the
answer about the linked secret, which is not empty, and the address as it was resolved. -/
theorem token_delivered {σ : Type} (serve : σ → Server → Request → Answer × σ)
    (cluster key : ObjectKey) (st : σ) :
    let run := (Exchange.reconcile cluster key).run serve st
    let said := (Exchange.reconcile cluster key).transcript serve st
    said.map Said.entry = run.2.1 ∧
      ∀ q ∈ calls said, q.request.method = .post ∨ q.request.method = .put →
        ∃ q₁ q₂ q₃ q₄ g t, calls said = [q₁, q₂, q₃, q₄, g, q] ∧
          Composes cluster q₂ q₃ q₄ q t ∧
          (q₃.answer.json?.bind (at? tokenPath)) = some (.str t) ∧ t ≠ "" ∧
          Carries cluster t (addressOf (q₄.answer.object Infrastructure.decode?))
            q.request.body := by
  intro run said
  refine ⟨Exchange.transcript_entries serve _ st, fun q hq hm => ?_⟩
  have hc :=
    Exchange.reconcile_yields cluster key said run.1 (Exchange.transcript_runsTo serve _ st)
  obtain ⟨q₁, q₂, q₃, q₄, g, t, hs, h⟩ := hc.composed hq hm
  obtain ⟨hn, ht⟩ := h.token_at
  obtain ⟨version, hb⟩ := h.body
  refine ⟨q₁, q₂, q₃, q₄, g, t, hs, h, ht, hn, ?_⟩
  rw [hb]
  exact written_carries ..

def escapedToken : String := "\"\\\n\u0007\u007fé😀"

/-- The hub is sent a token whose characters JSON has to escape, and reads it unescaped. -/
theorem escaped_token_delivered :
    let said := (Exchange.reconcile ⟨"prod", "fleet"⟩ ⟨"agent", "addon"⟩).transcript Stage.answer
      (tokenStage escapedToken (published "a\"b"))
    ∃ q ∈ calls said, q.request.method = .post ∧
      Carries ⟨"prod", "fleet"⟩ escapedToken "a\"b" q.request.body := by
  intro said
  have ha : (calls said).map (fun q => (q.request.method, q.answer)) =
      [(.get, Store.reply 200 (.obj [])),
        (.get, Store.reply 200 (.obj [("secrets", .arr [.obj [("name", .str dockercfgStem)]])])),
        (.get, Store.reply 200 (tokenHolder escapedToken)), (.get, published "a\"b"),
        (.get, Script.absent.answer), (.post, Store.reply 201 (.obj []))] := by
    decide +kernel
  have hd : ∀ q ∈ calls said, q.request.method = .post ∨ q.request.method = .put →
      ∃ q₁ q₂ q₃ q₄ g t, calls said = [q₁, q₂, q₃, q₄, g, q] ∧
        Composes ⟨"prod", "fleet"⟩ q₂ q₃ q₄ q t ∧
        (q₃.answer.json?.bind (at? tokenPath)) = some (.str t) ∧ t ≠ "" ∧
        Carries ⟨"prod", "fleet"⟩ t (addressOf (q₄.answer.object Infrastructure.decode?))
          q.request.body := (token_delivered Stage.answer _ _ _).2
  -- what was said has been computed; from here on only that it was this matters
  clear_value said
  simp only [List.map_eq_cons_iff, List.map_eq_nil_iff, Prod.mk.injEq] at ha
  obtain ⟨p₁, _, hs, -, p₂, _, rfl, -, p₃, _, rfl, ⟨-, h₃⟩, p₄, _, rfl, ⟨-, h₄⟩, p₅, _, rfl, -, q,
    _, rfl, ⟨hm, -⟩, rfl⟩ := ha
  obtain ⟨q₁, q₂, q₃, q₄, g, t, hq, hc, ht, -, hb⟩ := hd q (by simp [hs]) (.inl hm)
  cases hs.symm.trans hq
  have hj :
      (Store.reply 200 (tokenHolder escapedToken)).json? = some (tokenHolder escapedToken) := by
    rw [Answer.json?, Store.reply, Answer.text_ok (by decide), Except.toOption, Option.bind_some,
      read?_compact _ rfl]
  have hi : addressOf ((published "a\"b").object Infrastructure.decode?) = "a\"b" := by
    rw [published, Store.reply, Answer.object_of_text (Answer.text_ok (by decide) _),
      read?_compact _ rfl]
    rfl
  have hk : (tokenHolder escapedToken).at? tokenPath = some (.str escapedToken) := rfl
  rw [h₃, hj, Option.bind_some, hk] at ht
  cases ht
  rw [h₄, hi] at hb
  exact ⟨q, by simp [hs], hm, hb⟩

end TokenCourier
