import TokenCourier.Proofs.Api.Similar
import TokenCourier.Proofs.Store.Basic
import TokenCourier.Rehearsal.Script
import TokenCourier.Sync.Reconcile

namespace TokenCourier

variable {V : View}

/-- The same replies in the same order, up to answers that may differ. -/
structure Route.Similar (V : View) (s : Server) (x y : Route) : Prop where
  method : x.method = y.method
  path : x.path = y.path
  replies : List.Forall₂ (fun a b => ∀ r : Request, r.method.word = x.method → r.path = x.path →
    V.Swaps s r a.answer b.answer) x.replies y.replies

structure Script.Similar (V : View) (s : Server) (x y : Script) : Prop where
  unreachable : x.unreachable = y.unreachable
  routes : List.Forall₂ (Route.Similar V s) x.routes y.routes
  lists : x.lists = y.lists
  watches : x.watches = y.watches

structure Stage.Similar (V : View) (x y : Stage) : Prop where
  cluster : Script.Similar V .cluster x.cluster y.cluster
  hub : Script.Similar V .hub x.hub y.hub

def Route.fixed (method : Method) (path : String) (a : Answer) : Route :=
  ⟨method.word, path, [⟨0, .answer a⟩]⟩

theorem fixed_similar {s : Server} {method : Method} {path : String} {a b : Answer}
    (h : ∀ r : Request, r.method.word = method.word → r.path = path → V.Swaps s r a b) :
    Route.Similar V s (.fixed method path a) (.fixed method path b) :=
  ⟨rfl, rfl, .cons h .nil⟩

def tokenHolder (token : String) : Json :=
  .obj [("metadata", .obj [("annotations", .obj [(tokenValue, .str token)])])]

/-- A cluster with an agent, a token and an answer about its infrastructure, and a hub that does not
have its secret. -/
def tokenStage (token : String) (infrastructure : Answer) : Stage where
  cluster := { routes := [
    .fixed .get "/api/v1/namespaces/addon/serviceaccounts/agent" (Store.reply 200 (.obj [])),
    .fixed .get (serviceAccountsOf tokenAccount.ns ++ "/" ++ tokenAccount.name)
      (Store.reply 200 (.obj [("secrets", .arr [.obj [("name", .str dockercfgStem)]])])),
    .fixed .get (secretsOf tokenAccount.ns ++ "/" ++ dockercfgStem)
      (Store.reply 200 (tokenHolder token)),
    .fixed .get (Infrastructure.collectionPath none ++ "/cluster") infrastructure] }
  hub := { routes := [
    .fixed .post "/api/v1/namespaces/fleet/secrets" (Store.reply 201 (.obj []))] }

theorem tokenStage_created :
    ((Exchange.reconcile ⟨"prod", "fleet"⟩ ⟨"agent", "addon"⟩).run Stage.answer
      (tokenStage "s3cret" Store.noResource)).1 = .ok .created := by
  decide +kernel

def published (address : String) : Answer :=
  Store.reply 200 (.obj [("metadata", .obj []), ("spec", .obj []),
    ("status", .obj [("apiServerURL", .str address)])])

variable (hself : ∀ s r a, V.Swaps s r a a)

include hself

theorem serveRoute_similar {s : Server} {rs rs' : List Route}
    (h : List.Forall₂ (Route.Similar V s) rs rs') (r : Request) :
    V.Swaps s r (Script.serveRoute r.method.word r.path rs).1.answer
        (Script.serveRoute r.method.word r.path rs').1.answer ∧
      List.Forall₂ (Route.Similar V s) (Script.serveRoute r.method.word r.path rs).2
        (Script.serveRoute r.method.word r.path rs').2 := by
  induction h with
  | nil => exact ⟨hself _ _ _, .nil⟩
  | @cons x y rs rs' hx hrs ih =>
    obtain ⟨method, path, replies⟩ := x
    obtain ⟨_, _, replies'⟩ := y
    obtain ⟨rfl, rfl, ha⟩ := hx
    simp only [Script.serveRoute]
    by_cases hc : method = r.method.word ∧ path = r.path
    · simp only [hc, and_self, if_true]
      obtain ⟨rfl, rfl⟩ := hc
      cases ha with
      | nil => exact ⟨hself _ _ _, .cons ⟨rfl, rfl, .nil⟩ hrs⟩
      | cons hs ht =>
        refine ⟨?_, ?_⟩
        · cases ht <;> exact hs r rfl rfl
        · cases ht with
          | nil => exact .cons ⟨rfl, rfl, .cons hs .nil⟩ hrs
          | cons hu ht => exact .cons ⟨rfl, rfl, .cons hu ht⟩ hrs
    · simp only [hc, if_false]
      exact ⟨ih.1, .cons ⟨rfl, rfl, ha⟩ ih.2⟩

theorem Script.Similar.answer {s : Server} {x y : Script} (h : Script.Similar V s x y)
    (r : Request) :
    V.Swaps s r ((x.serve r).1.elim (.error "no answer") Reply.answer)
        ((y.serve r).1.elim (.error "no answer") Reply.answer) ∧
      Script.Similar V s (x.serve r).2 (y.serve r).2 := by
  obtain ⟨unreachable, routes, lists, watches⟩ := x
  obtain ⟨_, routes', _, _⟩ := y
  obtain ⟨rfl, hr, rfl, rfl⟩ := h
  cases unreachable with
  | some t => exact ⟨hself _ _ _, ⟨rfl, hr, rfl, rfl⟩⟩
  | none =>
    simp only [Script.serve]
    by_cases hw : r.hasParameter "watch" = true
    · simp only [hw, if_true]
      cases watches <;> exact ⟨hself _ _ _, ⟨rfl, hr, rfl, rfl⟩⟩
    · by_cases hl : r.hasParameter "limit" = true
      · simp only [hw, hl, if_true]
        cases lists <;> exact ⟨hself _ _ _, ⟨rfl, hr, rfl, rfl⟩⟩
      · simp only [hw, hl]
        obtain ⟨ha, hr⟩ := serveRoute_similar hself hr r
        exact ⟨ha, ⟨rfl, hr, rfl, rfl⟩⟩

omit hself in
theorem Script.serve_congr (x : Script) {r q : Request} (hm : r.method = q.method)
    (hp : r.path = q.path) (hq : r.query = q.query) : x.serve r = x.serve q := by
  obtain ⟨method, path, query, body⟩ := r
  obtain ⟨_, _, _, body'⟩ := q
  obtain ⟨rfl, rfl, rfl⟩ := And.intro hm (And.intro hp hq)
  rfl

/-- Scripted servers do not look at the bodies of requests. -/
theorem stage_serveAlike (hkeep : ∀ s r q, V.request s r = V.request s q →
      r.method = q.method ∧ r.path = q.path ∧ r.query = q.query) :
    V.ServeAlike (Stage.Similar V) Stage.answer Stage.answer := by
  intro st st' s r q hs hv
  obtain ⟨hm, hp, hq⟩ := hkeep s r q hv
  cases s with
  | cluster =>
    obtain ⟨ha, hc⟩ := hs.cluster.answer hself r
    simp only [Stage.answer, Stage.serve, ← Script.serve_congr st'.cluster hm hp hq]
    exact ⟨ha, hc, hs.hub⟩
  | hub =>
    obtain ⟨ha, hh⟩ := hs.hub.answer hself r
    simp only [Stage.answer, Stage.serve, ← Script.serve_congr st'.hub hm hp hq]
    exact ⟨ha, hs.cluster, hh⟩

theorem tokenStage_similar {t t' : String} {a a' : Answer}
    (ht : ∀ r, V.Swaps .cluster r (Store.reply 200 (tokenHolder t))
      (Store.reply 200 (tokenHolder t')))
    (ha : ∀ r : Request, r.path = Infrastructure.collectionPath none ++ "/cluster" →
      V.Swaps .cluster r a a') :
    Stage.Similar V (tokenStage t a) (tokenStage t' a') := by
  have hs : ∀ (s : Server) (m : Method) (path : String) (a : Answer),
      Route.Similar V s (.fixed m path a) (.fixed m path a) :=
    fun s m path a => fixed_similar fun r _ _ => hself s r a
  have hk : ∀ path, Route.Similar V .cluster
      (.fixed .get path (Store.reply 200 (tokenHolder t)))
      (.fixed .get path (Store.reply 200 (tokenHolder t'))) :=
    fun path => fixed_similar fun r _ _ => ht r
  have hi : Route.Similar V .cluster
      (.fixed .get (Infrastructure.collectionPath none ++ "/cluster") a)
      (.fixed .get (Infrastructure.collectionPath none ++ "/cluster") a') :=
    fixed_similar fun r _ hp => ha r hp
  rw [tokenStage, tokenStage]
  refine ⟨⟨rfl, ?_, rfl, rfl⟩, ⟨rfl, ?_, rfl, rfl⟩⟩
  · exact .cons (hs _ _ _ _) (.cons (hs _ _ _ _) (.cons (hk _) (.cons hi .nil)))
  · exact .cons (hs _ _ _ _) .nil

end TokenCourier
