import TokenCourier.Proofs.Json.Indented
import TokenCourier.Proofs.Kube.Redacted
import TokenCourier.Proofs.Kube.Written
import TokenCourier.Proofs.Api.Scripted
import TokenCourier.Proofs.Manager.Similar
import TokenCourier.Proofs.Store.Answers
import TokenCourier.Proofs.Sync.Alike

namespace TokenCourier

open Json Exchange

def redactToken : Json → Json :=
  amend ["stringData", "config"] (onText (amendText Json.pretty (amend ["bearerToken"] redact)))

/-- Two objects that are the same but for the token that they hold, if they hold one. -/
def TokenApart (a b : Answer) : Prop :=
  ∃ t u v w, a.text = .ok t ∧ b.text = .ok u ∧ read? t = some v ∧ read? u = some w ∧
    amend tokenPath redact v = amend tokenPath redact w

/-- All is seen but the token that the hub is sent. The cluster may answer with another token, and
the hub with another secret. -/
def tokenView : View where
  request := amendBody redactToken
  skips _ := false
  Swaps s r a b :=
    match s with
    | .cluster => a = b ∨ TokenApart a b
    | .hub => HubAnswers r a b

theorem tokenView_ignores : tokenView.Ignores redactToken := ⟨rfl, fun _ _ _ h => h⟩

theorem tokenView_self (s : Server) (r : Request) (a : Answer) : tokenView.Swaps s r a a := by
  cases s <;> exact .inl rfl

section Reads

variable {α β : Type} {read : Json → Option α} {p : α → β} {a b : Answer}

theorem agree_of_swaps {r : Request} (h : tokenView.Swaps .cluster r a b)
    (hp : ∀ v w, amend tokenPath redact v = amend tokenPath redact w →
      (read v).map p = (read w).map p) :
    Agree (fun x y => p x = p y) (a.object read) (b.object read) := by
  obtain rfl | ⟨t, u, v, w, ht, hu, hv, hw, he⟩ := h
  · exact agree_self (P := fun x y => p x = p y) (fun _ => rfl) _
  · have hr := hp v w he
    rw [Answer.object_of_text ht, Answer.object_of_text hu, hv, hw, Option.bind_some,
      Option.bind_some]
    cases hx : read v <;> cases hy : read w <;> simp only [hx, hy, Option.map_some,
      Option.map_none, Option.some.injEq, reduceCtorEq] at hr
    · exact .error _
    · exact .ok hr

end Reads

theorem rel_of_map {α β : Type} {f : α → β} {o o' : Option α} (h : o.map f = o'.map f) :
    Option.Rel (fun x y => f x = f y) o o' := by
  cases o <;> cases o' <;> simp at h
  · exact .none
  · exact .some h

theorem token_secret :
    Similar tokenView (Agree fun t t' => redactText t = redactText t') token token := by
  refine token_similar (fun r a b _ h => ?_) fun name r a b _ h => ?_
  · have ha := agree_of_swaps h fun v w he => (ServiceAccount.decode?_redact tokenValue).agree he
    refine ha.mono fun sa sa' hs => ?_
    have hd := congrArg ServiceAccount.dockercfg? hs
    exact hd
  · have ha := agree_of_swaps h fun v w he => (Secret.decode?_redact tokenValue).agree he
    refine ha.mono fun s s' hs => ⟨?_, rel_of_map ?_⟩
    · have hn := congrArg (Secret.annotation? · tokenName) hs
      simpa [Secret.annotation?_redacted, tokenName, tokenValue] using hn
    · rw [← Secret.token?_redacted, hs, Secret.token?_redacted]

theorem addressed_secret : Similar tokenView Eq addressed addressed := by
  have hc : Similar tokenView (Agree fun i i' => i.status = i'.status)
      (call .cluster (Request.get (Infrastructure.collectionPath none) "cluster")
        (·.object Infrastructure.decode?))
      (call .cluster (Request.get (Infrastructure.collectionPath none) "cluster")
        (·.object Infrastructure.decode?)) := by
    refine .call_same (fun _ => .error _) fun r a b _ h => agree_of_swaps h fun v w he => ?_
    rw [← Infrastructure.status_redact tokenValue, ← Infrastructure.status_redact tokenValue w]
    exact congrArg (fun v => (Infrastructure.decode? v).map (·.status)) he
  have hs : Similar tokenView Eq serverAddress serverAddress := by
    refine hc.bind ?_
    rintro _ _ (e | hs)
    · exact .done rfl
    · refine .done ?_
      rw [Infrastructure.apiServerURL?, hs]
      rfl
  refine hs.bind ?_
  rintro (e | a) _ rfl
  · exact .log (.done rfl)
  · exact .done rfl

section Written

variable (cluster : ObjectKey) (t server : String)

theorem redact_pretty : amendText Json.pretty (amend ["bearerToken"] redact)
    (ClusterConfig.ofToken t).pretty = (ClusterConfig.ofToken (redactText t)).pretty := by
  rw [ClusterConfig.pretty, amendText_print (read?_pretty _ rfl)]
  rfl

theorem redactToken_content (m : ObjectMeta) :
    redactToken (⟨m, some (ClusterSecret.content cluster t server)⟩ : Secret).toJson
      = (⟨m, some (ClusterSecret.content cluster (redactText t) server)⟩ : Secret).toJson := by
  simp [redactToken, Secret.toJson, Secret.member?, amend, amendMember, Secret.stringsJson,
    ClusterSecret.content, onText, redact_pretty]

theorem build_alike {t t' : String} (ht : redactText t = redactText t') :
    (ClusterSecret.build cluster t server).2.Alike redactToken
      (ClusterSecret.build cluster t' server).2 where
  created := by
    have hb : ∀ t, redactToken (ClusterSecret.build cluster t server).2.toJson
        = (ClusterSecret.build cluster (redactText t) server).2.toJson :=
      fun t => redactToken_content cluster t server _
    rw [hb, hb, ht]
  replacing current := by
    have hb : ∀ t, redactToken ((ClusterSecret.build cluster t server).2.replacing current).toJson
        = ((ClusterSecret.build cluster (redactText t) server).2.replacing current).toJson :=
      fun t => redactToken_content cluster t server _
    rw [hb, hb, ht]

end Written

theorem reconcile_secret (cluster key : ObjectKey) :
    Similar tokenView Eq (reconcile cluster key) (reconcile cluster key) := by
  refine reconcile_similar cluster key tokenView_ignores (fun r a b _ h => ?_) ?_
  · have ha := agree_of_swaps h fun v w he => (ServiceAccount.decode?_redact tokenValue).agree he
    exact ha.mono fun _ _ _ => trivial
  · refine publish_similar cluster token_secret addressed_secret ?_
    rintro t t' a _ ht rfl
    exact logAll_same _ (applyClusterSecret_similar cluster tokenView_ignores
      (build_alike cluster a ht))

/-- Neither reconciliations one after the other nor runs of a manager show what the token is, other
than to the hub. -/
theorem token_undisclosed {σ τ : Type} {S : σ → τ → Prop}
    {serve : σ → Server → Request → Answer × σ} {serve' : τ → Server → Request → Answer × τ}
    {st : σ} {st' : τ} (ht : tokenView.ServeAlike S serve serve') (hs : S st st')
    (cluster : ObjectKey) :
    (∀ keys : List ObjectKey,
      let run := (keys.mapM (reconcile cluster)).run serve st
      let run' := (keys.mapM (reconcile cluster)).run serve' st'
      run.1 = run'.1 ∧ tokenView.seen run.2.1 = tokenView.seen run'.2.1) ∧
    ∀ (watched : ObjectKey) (period : Nat) (inputs : List Input),
      let live : ServedManager σ := ⟨st, Manager.opening cluster watched period, 0, []⟩
      let live' : ServedManager τ := ⟨st', Manager.opening cluster watched period, 0, []⟩
      (live.run serve inputs).map (fun l => (l.now, tokenView.observed l.history))
        = (live'.run serve' inputs).map (fun l => (l.now, tokenView.observed l.history)) := by
  refine ⟨fun keys => ?_, fun watched period inputs => ?_⟩
  · obtain ⟨hr, hv, -⟩ := (Similar.mapM (reconcile_secret cluster) keys).run ht hs
    exact ⟨hr, hv⟩
  · have hb : ServedManager.Similar tokenView S ⟨st, Manager.opening cluster watched period, 0, []⟩
        ⟨st', Manager.opening cluster watched period, 0, []⟩ :=
      ⟨hs, Manager.opening_similar _ _ _ _, rfl⟩
    have hl := hb.run reconcile_secret tokenView_self ht inputs
    dsimp only
    generalize ServedManager.run serve _ inputs = l at hl
    generalize ServedManager.run serve' _ inputs = l' at hl
    cases hl with
    | none => rfl
    | some hl => simp [hl.now, hl.manager.observed]

theorem holders_apart {t t' : String} (ht : redactText t = redactText t') :
    TokenApart (Store.reply 200 (tokenHolder t)) (Store.reply 200 (tokenHolder t')) := by
  have ha : ∀ t, (tokenHolder t).plain = true := fun t => by
    simp [tokenHolder, plain, plainMembers]
  refine ⟨_, _, _, _, Answer.text_ok (by decide) _, Answer.text_ok (by decide) _,
    read?_compact _ (ha t), read?_compact _ (ha t'), ?_⟩
  simp [tokenHolder, tokenPath, amend, amendMember, onText, ht]

/-- Two clusters with different tokens, of which the hub is sent theirs. -/
theorem other_token_unseen :
    let st := tokenStage "s3cret" Store.noResource
    let st' := tokenStage "hunter2" Store.noResource
    let program := [(⟨"agent", "addon"⟩ : ObjectKey)].mapM (reconcile ⟨"prod", "fleet"⟩)
    tokenView.ServeAlike (Stage.Similar tokenView) Stage.answer Stage.answer ∧
      Stage.Similar tokenView st st' ∧ (program.run Stage.answer st).1 = [.ok .created] ∧
      (program.run Stage.answer st).1 = (program.run Stage.answer st').1 ∧
      tokenView.seen (program.run Stage.answer st).2.1
        = tokenView.seen (program.run Stage.answer st').2.1 := by
  have ht : tokenView.ServeAlike (Stage.Similar tokenView) Stage.answer Stage.answer :=
    stage_serveAlike tokenView_self fun s _ _ => amendBody_keeps redactToken s
  have hs : ∀ a, Stage.Similar tokenView (tokenStage "s3cret" a) (tokenStage "hunter2" a) :=
    fun a => tokenStage_similar tokenView_self (fun _ => .inr (holders_apart (by decide)))
      fun r _ => tokenView_self .cluster r a
  have hc : (([⟨"agent", "addon"⟩].mapM (reconcile ⟨"prod", "fleet"⟩)).run Stage.answer
      (tokenStage "s3cret" Store.noResource)).1 = [.ok .created] := by
    rw [List.mapM_cons, List.mapM_nil, run_bind, tokenStage_created]
    rfl
  exact ⟨ht, hs _, hc,
    (token_undisclosed ht (hs _) ⟨"prod", "fleet"⟩).1 [⟨"agent", "addon"⟩]⟩

end TokenCourier
