import TokenCourier.Proofs.Api.Scripted
import TokenCourier.Proofs.Sync.Alike
import TokenCourier.Proofs.Sync.Payload

namespace TokenCourier

open Json Exchange

def serverName : String := "apps.open-cluster-management.io/cluster-server"

def hideAddress (v : Json) : Json :=
  amend ["metadata", "labels"] (without serverName)
    (amend ["stringData", "server"] (fun _ => .null) v)

/-- All requests are seen, but not the address in a secret, and no errors. The read of the
infrastructure may be answered otherwise, and the hub may answer with another secret. -/
def addressView : View where
  request := amendBody hideAddress
  skips l := l.level = .error
  Swaps s r a b :=
    match s with
    | .cluster => a = b ∨ r.path = Infrastructure.collectionPath none ++ "/cluster"
    | .hub => HubAnswers r a b

theorem addressView_ignores : addressView.Ignores hideAddress := ⟨rfl, fun _ _ _ h => h⟩

theorem addressView_self (s : Server) (r : Request) (a : Answer) : addressView.Swaps s r a a := by
  cases s <;> exact .inl rfl

theorem Target.path_append {start rest path query : String}
    (hs : start.toList.all fun c => c != '#' && c != '?')
    (h : parse (start ++ rest) = .ok (path, query)) : start.toList <+: path.toList := by
  have hc : ∀ c ∈ start.toList, (c != '#') = true ∧ (c != '?') = true := by simpa using hs
  rw [parse_path h, String.toList_ofList, String.toList_append,
    List.takeWhile_append_of_pos fun c m => (hc c m).1,
    List.takeWhile_append_of_pos fun c m => (hc c m).2]
  exact List.prefix_append _ _

theorem path_of_collection {ns plural name : String} {r : Request}
    (h : Request.get (collection ns plural) name = .ok r) :
    r.path ≠ Infrastructure.collectionPath none ++ "/cluster" := by
  obtain ⟨-, -, query, hp⟩ := Request.buildNamed_ok h
  have ht : collection ns plural ++ "/" ++ name ++ ""
      = "/api/v1/namespaces/" ++ (ns ++ ("/" ++ (plural ++ ("/" ++ (name ++ ""))))) := by
    unfold collection
    simp only [String.append_assoc]
  rw [ht] at hp
  have hs := Target.path_append (by decide) hp
  intro hi
  rw [hi] at hs
  revert hs
  decide

theorem namespaced_answer_eq {ns plural name : String} {r : Request} {a b : Answer}
    (hr : Request.get (collection ns plural) name = .ok r)
    (h : addressView.Swaps .cluster r a b) : a = b := by
  obtain h | hp := h
  · exact h
  · exact absurd hp (path_of_collection hr)

theorem namespaced_read_agree {α : Type} {read : Json → Option α} {P : α → α → Prop}
    {ns plural name : String} {r : Request} {a b : Answer} (hp : ∀ x, P x x)
    (hr : Request.get (collection ns plural) name = .ok r)
    (h : addressView.Swaps .cluster r a b) : Agree P (a.object read) (b.object read) := by
  rw [namespaced_answer_eq hr h]
  exact agree_self hp _

theorem token_agree : Similar addressView (Agree Eq) token token := by
  refine token_similar (fun r a b hr h => namespaced_read_agree ?_ hr h)
    fun name r a b hr h => namespaced_read_agree ?_ hr h
  · exact fun _ => rfl
  · intro s
    refine ⟨rfl, ?_⟩
    cases s.token? with
    | none => exact .none
    | some t => exact .some rfl

theorem addressed_always : Similar addressView (fun _ _ => True) addressed addressed := by
  have hs : Similar addressView (fun _ _ => True) serverAddress serverAddress := by
    refine Similar.bind (R := fun _ _ => True)
      (.call_same (fun _ => trivial) fun _ _ _ _ _ => trivial) fun x y _ => ?_
    cases x <;> cases y <;> exact .done trivial
  refine hs.bind fun x y _ => ?_
  cases x with
  | ok a =>
    cases y with
    | ok b => exact .done trivial
    | error e => exact .right rfl (.done trivial)
  | error e =>
    cases y with
    | ok b => exact .left rfl (.done trivial)
    | error f => exact .left rfl (.right rfl (.done trivial))

namespace ClusterSecret

variable (cluster : ObjectKey) (t : String)

theorem build_errors (server : String) : ∀ l ∈ (build cluster t server).1, l.level = .error := by
  have hs : ∀ l ∈ (serverLabel server).1, l.level = .error := by
    rw [serverLabel]
    cases Url.host server <;> simp
  intro l hl
  rw [build] at hl
  obtain hl | hl := List.mem_append.mp hl
  · exact hs l hl
  · cases ho : (serverLabel server).2 with
    | none =>
      rw [ho] at hl
      obtain rfl : l = invalidServer server := by simpa using hl
      rfl
    | some host => simp [ho] at hl

theorem written_eq (server : String) (version : Option String) :
    written cluster t server version =
      { metadata :=
          { name := some cluster.clusterSecret.name
            ns := some cluster.ns
            labels := some (labels cluster (serverLabel server).2)
            resourceVersion := version }
        stringData := some (content cluster t server) } :=
  rfl

theorem hideAddress_written (a b : String) (version : Option String) :
    hideAddress (written cluster t a version).toJson
      = hideAddress (written cluster t b version).toJson := by
  rw [written_eq, written_eq]
  generalize (serverLabel a).2 = host
  generalize (serverLabel b).2 = host'
  cases version <;> cases host <;> cases host' <;> rfl

theorem build_alike_but_address (a b : String) :
    (build cluster t a).2.Alike hideAddress (build cluster t b).2 where
  created := hideAddress_written cluster t a b none
  replacing current := hideAddress_written cluster t a b current.metadata.resourceVersion

end ClusterSecret

theorem deliver_similar (cluster : ObjectKey) (t a b : String) :
    Similar addressView Eq (deliver cluster t a) (deliver cluster t b) := by
  have he : ∀ server, ∀ l ∈ (ClusterSecret.build cluster t server).1, addressView.skips l = true :=
    fun server l hl => decide_eq_true (ClusterSecret.build_errors cluster t server l hl)
  -- the lines differ, but are errors all of them, which the view skips
  refine logAll_left (he a) (logAll_right (he b) ?_)
  exact applyClusterSecret_similar cluster addressView_ignores
    (ClusterSecret.build_alike_but_address ..)

theorem reconcile_similar_but_address (cluster key : ObjectKey) :
    Similar addressView Eq (reconcile cluster key) (reconcile cluster key) := by
  refine reconcile_similar cluster key addressView_ignores (fun r a b hr h => ?_) ?_
  · exact namespaced_read_agree (fun _ => trivial) hr h
  · refine publish_similar cluster token_agree addressed_always ?_
    rintro t _ a b rfl -
    exact deliver_similar cluster t a b

def Answer.address (a : Answer) : String :=
  ((a.object Infrastructure.decode?).toOption.bind fun i => i.status.bind (·.apiServerURL)).getD ""

theorem addressOf_answer (a : Answer) :
    addressOf (a.object Infrastructure.decode?) = a.address := by
  have hf : ∀ o : Option String, (o.filter (· != "")).getD "" = o.getD "" := by
    intro o
    cases o with
    | none => rfl
    | some s => by_cases hs : s = "" <;> simp [Option.filter, hs]
  rw [addressOf, Answer.address]
  cases (a.object Infrastructure.decode?).toOption with
  | none => rfl
  | some i => exact hf _

def Shows (address body : String) : Prop :=
  ∃ v, read? body = some v ∧ v.at? ["stringData", "server"] = some (.str address) ∧
    v.at? ["metadata", "labels", serverName]
      = (ClusterSecret.serverLabel address).2.map .str

theorem written_shows (cluster : ObjectKey) (t server : String) (version : Option String) :
    Shows server (ClusterSecret.written cluster t server version).toJson.compact := by
  refine ⟨_, read?_compact _ (Secret.plain_toJson _), rfl, ?_⟩
  rw [ClusterSecret.written_eq]
  generalize (ClusterSecret.serverLabel server).2 = host
  cases version <;> cases host <;> rfl

/-- Each write of the reconciliation comes after a read of the infrastructure and shows the address
that the answer gives. -/
def ShowsAddress {σ : Type} (serve : σ → Server → Request → Answer × σ) (st : σ)
    (cluster key : ObjectKey) : Prop :=
  let said := (reconcile cluster key).transcript serve st
  said.map Said.entry = ((reconcile cluster key).run serve st).2.1 ∧
    ∀ q ∈ calls said, q.request.method = .post ∨ q.request.method = .put →
      ∃ q₁ q₂ q₃ q₄ g, calls said = [q₁, q₂, q₃, q₄, g, q] ∧
        q₄.Gets .cluster (Infrastructure.collectionPath none) "cluster" ∧
        Shows q₄.answer.address q.request.body

theorem reconcile_shows {σ : Type} (serve : σ → Server → Request → Answer × σ) (st : σ)
    (cluster key : ObjectKey) : ShowsAddress serve st cluster key := by
  refine ⟨transcript_entries serve _ st, fun q hq hm => ?_⟩
  have hc := reconcile_yields cluster key _ _ (transcript_runsTo serve _ st)
  obtain ⟨q₁, q₂, q₃, q₄, g, t, hs, h⟩ := hc.composed hq hm
  obtain ⟨version, hb⟩ := h.body
  refine ⟨q₁, q₂, q₃, q₄, g, hs, h.infrastructure, ?_⟩
  rw [hb, addressOf_answer]
  exact written_shows ..

/-- However the read of the infrastructure is answered, the reconciliation asks the same and ends
the same. Its secret has the address that was answered, and is the same otherwise. -/
theorem address_decides_nothing {σ τ : Type} {S : σ → τ → Prop}
    {serve : σ → Server → Request → Answer × σ} {serve' : τ → Server → Request → Answer × τ}
    {st : σ} {st' : τ} (ht : addressView.ServeAlike S serve serve') (hs : S st st')
    (cluster key : ObjectKey) :
    let run := (reconcile cluster key).run serve st
    let run' := (reconcile cluster key).run serve' st'
    run.1 = run'.1 ∧ addressView.seen run.2.1 = addressView.seen run'.2.1 ∧
      ShowsAddress serve st cluster key ∧ ShowsAddress serve' st' cluster key := by
  obtain ⟨hr, hv, -⟩ := (reconcile_similar_but_address cluster key).run ht hs
  exact ⟨hr, hv, reconcile_shows .., reconcile_shows ..⟩

/-- A cluster without an infrastructure object, and one whose object has an address. -/
theorem unpublished_address_ends_alike :
    let st := tokenStage "s3cret" Store.noResource
    let st' := tokenStage "s3cret" (published "https://api.prod:6443")
    let program := reconcile ⟨"prod", "fleet"⟩ ⟨"agent", "addon"⟩
    addressView.ServeAlike (Stage.Similar addressView) Stage.answer Stage.answer ∧
      Stage.Similar addressView st st' ∧ (program.run Stage.answer st).1 = .ok .created ∧
      (program.run Stage.answer st).1 = (program.run Stage.answer st').1 ∧
      addressView.seen (program.run Stage.answer st).2.1
        = addressView.seen (program.run Stage.answer st').2.1 := by
  have ht : addressView.ServeAlike (Stage.Similar addressView) Stage.answer Stage.answer :=
    stage_serveAlike addressView_self fun s _ _ => amendBody_keeps hideAddress s
  have hs : ∀ a a', Stage.Similar addressView (tokenStage "s3cret" a) (tokenStage "s3cret" a') :=
    fun a a' => tokenStage_similar addressView_self (fun r => addressView_self .cluster r _)
      fun _ hp => .inr hp
  obtain ⟨hr, hv, -⟩ := address_decides_nothing ht (hs Store.noResource (published _))
    ⟨"prod", "fleet"⟩ ⟨"agent", "addon"⟩
  exact ⟨ht, hs _ _, tokenStage_created, hr, hv⟩

end TokenCourier
