import TokenCourier.Proofs.Api.Replies
import TokenCourier.Proofs.Api.Scripted
import TokenCourier.Proofs.Sync.Alike

namespace TokenCourier

open Exchange

/-- The first link with the stem has this name. Those before it have no name or another stem. -/
def ServiceAccount.LinksFirst (sa : ServiceAccount) (name : String) : Prop :=
  ∃ before after, sa.secrets = before ++ some name :: after ∧
    dockercfgStem.toList <+: name.toList ∧
    ∀ n, some n ∈ before → ¬ dockercfgStem.toList <+: n.toList

theorem ServiceAccount.dockercfg_iff {sa : ServiceAccount} {name : String} :
    sa.dockercfg? = some name ↔ sa.LinksFirst name := by
  rw [dockercfg?, List.find?_filterMap, Option.bind_eq_some_iff, LinksFirst]
  constructor
  · rintro ⟨link, hf, rfl⟩
    obtain ⟨hp, before, after, hl, hb⟩ := List.find?_eq_some_iff_append.mp hf
    refine ⟨before, after, hl, by simpa using hp, fun n hn => ?_⟩
    rw [← List.isPrefixOf_iff_prefix, Bool.not_eq_true]
    simpa using hb _ hn
  · rintro ⟨before, after, hl, hp, hb⟩
    refine ⟨some name, List.find?_eq_some_iff_append.mpr ⟨by simpa using hp, before, after, hl, ?_⟩,
      rfl⟩
    rintro (_ | n) hn
    · rfl
    · have hn := hb n hn
      rw [← List.isPrefixOf_iff_prefix, Bool.not_eq_true] at hn
      simpa using hn

theorem Secret.token_iff {s : Secret} {t : String} :
    s.token? = some t ↔ s.annotation? tokenValue = some t ∧ t ≠ "" := by
  rw [Secret.token?, Option.filter_eq_some_iff]
  simp

namespace Exchange

def bearerToken : Exchange (Except SyncError String) := do
  return (← token).mapError fun c => .tokenNotFound c.message

theorem publish_bearer (cluster : ObjectKey) :
    publish cluster = bearerToken >>= fun
      | .error e => pure (.error e)
      | .ok t => addressed >>= deliver cluster t := by
  rw [publish_eq, bearerToken, bind_assoc]
  congr 1
  funext x
  cases x <;> rfl

end Exchange

variable {σ : Type} {serve : σ → Server → Request → Answer × σ} {st st' : σ} {name t : String}

def sends (es : List Entry) : List (Server × Request) :=
  es.filterMap fun
    | .log _ => none
    | .sent s r => some (s, r)

theorem sends_entries (ss : List Said) :
    sends (ss.map Said.entry) = (calls ss).map fun q => (q.server, q.request) := by
  induction ss with
  | nil => rfl
  | cons s ss ih =>
    cases s with
    | log l => exact ih
    | asked q => exact congrArg _ ih

def accountRequest : Request where
  method := .get
  path := "/api/v1/namespaces/open-cluster-management-agent-addon/"
    ++ "serviceaccounts/application-manager"

theorem accountRequest_eq :
    Request.get (serviceAccountsOf tokenAccount.ns) tokenAccount.name = .ok accountRequest := by
  decide

/-- The read of the service account is answered with one that links this secret before others. -/
def Links (serve : σ → Server → Request → Answer × σ) (st : σ) (name : String) : Prop :=
  ∃ sa, (serve st .cluster accountRequest).1.DecodesTo ServiceAccount.decode? sa ∧
    sa.LinksFirst name

/-- After that, the read of the secret is answered with one that has this token. -/
def Holds (serve : σ → Server → Request → Answer × σ) (st : σ) (name t : String) : Prop :=
  ∃ r s, Request.get (secretsOf tokenAccount.ns) name = .ok r ∧
    (serve (serve st .cluster accountRequest).2 .cluster r).1.DecodesTo Secret.decode? s ∧
    s.annotation? tokenValue = some t ∧ t ≠ ""

theorem Links.first (h : Links serve st name) : ∃ sa,
    (serve st .cluster accountRequest).1.object ServiceAccount.decode? = .ok sa ∧
      sa.dockercfg? = some name := by
  obtain ⟨sa, ha, hl⟩ := h
  exact ⟨sa, Answer.object_ok_iff.mpr ha, ServiceAccount.dockercfg_iff.mpr hl⟩

theorem Links.unique {name' : String} (h : Links serve st name) (h' : Links serve st name') :
    name = name' := by
  obtain ⟨sa, ha, hd⟩ := h.first
  obtain ⟨sa', ha', hd'⟩ := h'.first
  cases ha.symm.trans ha'
  exact Option.some.inj (hd.symm.trans hd')

namespace Exchange

theorem Called.answered_in {α : Type} {s : Server} {req : Except RequestFault Request}
    {r : Request} {read : Answer → Except ClientError α} {qs : List Asked}
    {x : Except ClientError α} (h : Called s req read qs x) (hr : req = .ok r)
    (ha : AnsweredIn serve st qs) :
    qs = [⟨s, r, (serve st s r).1⟩] ∧ x = read (serve st s r).1 := by
  obtain ⟨a, rfl, rfl⟩ := h.of_built hr
  obtain rfl : a = (serve st s r).1 := ha.1
  exact ⟨rfl, rfl⟩

theorem account_answered {qs : List Asked} {x : Except ClientError ServiceAccount}
    (hx : AccountRead .cluster tokenAccount qs x) (ha : AnsweredIn serve st qs) :
    qs = [⟨.cluster, accountRequest, (serve st .cluster accountRequest).1⟩] ∧
      x = (serve st .cluster accountRequest).1.object ServiceAccount.decode? :=
  hx.answered_in accountRequest_eq ha

theorem named_answered {qs ps : List Asked} {sa : ServiceAccount}
    (hx : AccountRead .cluster tokenAccount qs (.ok sa)) (hd : sa.dockercfg? = some name)
    (ha : AnsweredIn serve st (qs ++ ps)) :
    Links serve st name ∧ AnsweredIn serve (serve st .cluster accountRequest).2 ps ∧
      qs = [⟨.cluster, accountRequest, (serve st .cluster accountRequest).1⟩] := by
  obtain ⟨rfl, ho⟩ := account_answered hx ha.left
  have hl := ServiceAccount.dockercfg_iff.mp hd
  exact ⟨⟨sa, Answer.object_ok_iff.mp ho.symm, hl⟩, ha.2, rfl⟩

theorem secret_answered {qs ps : List Asked} {sa : ServiceAccount} {name' : String} {r : Request}
    {y : Except ClientError Secret} (hx : AccountRead .cluster tokenAccount qs (.ok sa))
    (hd : sa.dockercfg? = some name') (hy : SecretRead .cluster ⟨name', tokenAccount.ns⟩ ps y)
    (ha : AnsweredIn serve st (qs ++ ps)) (hl : Links serve st name)
    (hr : Request.get (secretsOf tokenAccount.ns) name = .ok r) :
    y = (serve (serve st .cluster accountRequest).2 .cluster r).1.object Secret.decode? := by
  obtain ⟨hl', hp, -⟩ := named_answered hx hd ha
  obtain rfl := hl.unique hl'
  exact (hy.answered_in hr hp).2

theorem Search.found_iff {qs : List Asked} {x : Except TokenCause String} (h : Search qs x)
    (ha : AnsweredIn serve st qs) (t : String) :
    x = .ok t ↔ ∃ name, Links serve st name ∧ Holds serve st name t := by
  constructor
  · rintro rfl
    cases h with
    | found hx hd hy ht =>
      obtain ⟨hl, hp, -⟩ := named_answered hx hd ha
      obtain ⟨q, rfl, ⟨hs, hr⟩, ho⟩ := hy.read_ok
      rw [hp.1, hs] at ho
      exact ⟨_, hl, q.request, _, hr, Answer.object_ok_iff.mp ho, Secret.token_iff.mp ht⟩
  · rintro ⟨name, hl, r, s, hr, hb, ht⟩
    obtain ⟨sa, hsa, hd⟩ := hl.first
    have hs := Answer.object_ok_iff.mpr hb
    have ht := Secret.token_iff.mpr ht
    -- every other end of the search contradicts one of the two answers
    cases h with
    | serviceAccount hx => cases (account_answered hx ha).2.trans hsa
    | noSecret hx hn =>
      cases (account_answered hx ha).2.trans hsa
      cases hn.symm.trans hd
    | secret hx hn hy => cases (secret_answered hx hn hy ha hl hr).trans hs
    | noValue hx hn hy he =>
      cases (secret_answered hx hn hy ha hl hr).trans hs
      cases he.symm.trans ht
    | found hx hn hy he =>
      cases (secret_answered hx hn hy ha hl hr).trans hs
      exact congrArg _ (Option.some.inj (he.symm.trans ht))

theorem Search.asks {qs : List Asked} {x : Except TokenCause String} (h : Search qs x)
    (ha : AnsweredIn serve st qs) :
    qs.map (·.request) = [accountRequest] ∨ ∃ name r, Links serve st name ∧
      Request.get (secretsOf tokenAccount.ns) name = .ok r ∧
      qs.map (·.request) = [accountRequest, r] := by
  have hn : ∀ {qs ps : List Asked} {sa : ServiceAccount} {name : String}
      {y : Except ClientError Secret}, AccountRead .cluster tokenAccount qs (.ok sa) →
      sa.dockercfg? = some name → SecretRead .cluster ⟨name, tokenAccount.ns⟩ ps y →
      AnsweredIn serve st (qs ++ ps) → (qs ++ ps).map (·.request) = [accountRequest] ∨
        ∃ name r, Links serve st name ∧ Request.get (secretsOf tokenAccount.ns) name = .ok r ∧
          (qs ++ ps).map (·.request) = [accountRequest, r] := by
    intro qs ps sa name y hx hd hy ha
    obtain ⟨hl, -, rfl⟩ := named_answered hx hd ha
    cases hy with
    | unbuilt => exact .inl rfl
    | answered a hr => exact .inr ⟨name, _, hl, hr, rfl⟩
  cases h with
  | serviceAccount hx => exact .inl (congrArg _ (account_answered hx ha).1)
  | noSecret hx => exact .inl (congrArg _ (account_answered hx ha).1)
  | secret hx hd hy => exact hn hx hd hy ha
  | noValue hx hd hy => exact hn hx hd hy ha
  | found hx hd hy => exact hn hx hd hy ha

theorem token_linked (hl : Links serve st name) (hl' : Links serve st' name)
    (hs : (serve st .cluster accountRequest).2 = (serve st' .cluster accountRequest).2) :
    token.run serve st = token.run serve st' := by
  obtain ⟨sa, ha, hd⟩ := hl.first
  obtain ⟨sa', ha', hd'⟩ := hl'.first
  rw [token, run_sequence, run_sequence]
  simp only [getServiceAccount, run_call accountRequest_eq, ha, ha', hd, hd', hs]

theorem token_sends (serve : σ → Server → Request → Answer × σ) (st : σ) :
    sends (token.run serve st).2.1 = [(.cluster, accountRequest)] ∨
      ∃ name r, Links serve st name ∧ Request.get (secretsOf tokenAccount.ns) name = .ok r ∧
        sends (token.run serve st).2.1 = [(.cluster, accountRequest), (.cluster, r)] := by
  have hs := token_yields _ _ (transcript_runsTo serve token st)
  have hc : sends (token.run serve st).2.1
      = ((calls (token.transcript serve st)).map (·.request)).map fun r => (.cluster, r) := by
    rw [← transcript_entries, sends_entries, List.map_map]
    apply List.map_congr_left
    intro q hq
    rw [(hs.gets q hq).1]
    rfl
  rw [hc]
  obtain hq | ⟨name, r, hl, hr, hq⟩ := hs.asks (transcript_answered token st)
  · rw [hq]
    exact .inl rfl
  · rw [hq]
    exact .inr ⟨name, r, hl, hr, rfl⟩

theorem bearerToken_run (serve : σ → Server → Request → Answer × σ) (st : σ) :
    bearerToken.run serve st =
      ((token.run serve st).1.mapError fun c => .tokenNotFound c.message,
        (token.run serve st).2.1, (token.run serve st).2.2) := by
  rw [bearerToken, run_sequence]
  exact Prod.ext rfl (Prod.ext (List.append_nil _) rfl)

end Exchange

/-- There is a token exactly if the service account can be read, and so can the first secret that it
links under the stem, and that one has a token. Otherwise it is an error that says so. Nothing else
is read for it, and the other links do not matter. -/
theorem bearer_token_exact (serve : σ → Server → Request → Answer × σ) (st : σ) :
    let run := bearerToken.run serve st
    (∀ t, run.1 = .ok t ↔ ∃ name, Links serve st name ∧ Holds serve st name t) ∧
      (∀ e, run.1 = .error e → ∃ m, e = .tokenNotFound m) ∧
      (sends run.2.1 = [(.cluster, accountRequest)] ∨
        ∃ name r, Links serve st name ∧ Request.get (secretsOf tokenAccount.ns) name = .ok r ∧
          r.method = .get ∧ sends run.2.1 = [(.cluster, accountRequest), (.cluster, r)]) ∧
      ∀ st' name, Links serve st name → Links serve st' name →
        (serve st .cluster accountRequest).2 = (serve st' .cluster accountRequest).2 →
        bearerToken.run serve st' = run := by
  have hs := token_yields _ _ (transcript_runsTo serve token st)
  have hf := hs.found_iff (transcript_answered token st)
  dsimp only
  rw [bearerToken_run]
  refine ⟨fun t => ?_, fun e he => ?_, ?_, fun st' name hl hl' hst => ?_⟩
  · rw [← hf t]
    cases (token.run serve st).1 <;> simp [Except.mapError]
  · cases hx : (token.run serve st).1 with
    | error c =>
      rw [hx] at he
      cases he
      exact ⟨_, rfl⟩
    | ok t =>
      rw [hx] at he
      cases he
  · obtain hq | ⟨name, r, hl, hr, hq⟩ := token_sends serve st
    · exact .inl hq
    · exact .inr ⟨name, r, hl, hr, (Request.buildNamed_ok hr).1, hq⟩
  · rw [bearerToken_run, token_linked hl hl' hst]

section Laid

def inTurn : List Answer → Server → Request → Answer × List Answer
  | [], _, _ => (Store.noResource, [])
  | a :: as, _, _ => (a, as)

def linkJson : Option String → Json
  | none => .obj []
  | some n => .obj [("name", .str n)]

def linking (links : List (Option String)) : Answer :=
  Store.reply 200 (.obj [("secrets", .arr (links.map linkJson))])

theorem linking_links {links : List (Option String)} {as : List Answer} {name : String}
    (hp : (Json.obj [("secrets", .arr (links.map linkJson))]).plain = true)
    (hr : ServiceAccount.decode? (.obj [("secrets", .arr (links.map linkJson))])
      = some { secrets := links })
    (hd : ServiceAccount.dockercfg? { secrets := links } = some name) :
    Links inTurn (linking links :: as) name := by
  have hs : ¬ (400 ≤ 200 ∧ 200 < 600) := by decide
  exact ⟨_, Answer.reply_decodesTo hs hp hr, ServiceAccount.dockercfg_iff.mp hd⟩

end Laid

/-- The second link has another stem, and the first has no name. A fourth one changes nothing. -/
theorem third_link_taken :
    let holder := Store.reply 200 (tokenHolder "s3cret")
    let links : List (Option String) :=
      [none, some "application-manager-token", some "application-manager-dockercfg-1"]
    let more := links ++ [some "application-manager-dockercfg-2"]
    (bearerToken.run inTurn [linking links, holder]).1 = .ok "s3cret" ∧
      bearerToken.run inTurn [linking more, holder] = bearerToken.run inTurn [linking links, holder]
      := by
  intro holder links more
  have hs : ¬ (400 ≤ 200 ∧ 200 < 600) := by decide
  have hl : Links inTurn [linking links, holder] "application-manager-dockercfg-1" :=
    linking_links (by decide) rfl (by decide)
  have hl' : Links inTurn [linking more, holder] "application-manager-dockercfg-1" :=
    linking_links (by decide) rfl (by decide)
  have hh : Holds inTurn [linking links, holder] "application-manager-dockercfg-1" "s3cret" := by
    have hb : holder.DecodesTo Secret.decode?
        { metadata := { annotations := some [(tokenValue, "s3cret")] } } :=
      Answer.reply_decodesTo hs (by decide) rfl
    exact ⟨⟨.get, secretsOf tokenAccount.ns ++ "/application-manager-dockercfg-1", "", ""⟩, _,
      by decide, hb, by decide, by decide⟩
  obtain ⟨hf, -, -, hm⟩ := bearer_token_exact inTurn [linking links, holder]
  exact ⟨(hf _).mpr ⟨_, hl, hh⟩, hm _ _ hl hl' rfl⟩

end TokenCourier
