import TokenCourier.Proofs.Sync.Refines

namespace TokenCourier

/-- Another store that leads to the same token and address. -/
structure SameSources (st st' : Store) : Prop where
  token : st'.token? = st.token?
  address : st'.address = st.address
  secrets : ∀ k, st'.secret? k = st.secret? k
  linked : st'.Linked

theorem SameSources.refl {st : Store} (hl : st.Linked) : SameSources st st :=
  ⟨rfl, rfl, fun _ => rfl, hl⟩

theorem SameSources.trans {st st' st'' : Store} (h : SameSources st st')
    (h' : SameSources st' st'') : SameSources st st'' :=
  ⟨h'.token.trans h.token, h'.address.trans h.address,
    fun k => (h'.secrets k).trans (h.secrets k), h'.linked⟩

namespace Store

variable {st : Store} {key : ObjectKey} {text : Option String} {α : Type} {f : Json → Option α}

theorem find_put (st : Store) (a : Address) (text : Option String) :
    (st.put a text).find f a = text.map fun t => (Json.read? t).bind f := by
  simp [find, put]

theorem find_put_other {a b : Address} (hb : b ≠ a) : (st.put a text).find f b = st.find f b := by
  rw [find, put_other hb]
  rfl

def LinksValid (text : Option String) : Prop :=
  ∀ sa, (text.bind Json.read?).bind ServiceAccount.decode? = some sa →
    ∀ name, some name ∈ sa.secrets → ValidName name

theorem linksValid_none : LinksValid none := by
  intro sa hs
  cases hs

/-- Changes of a service account that leads to no token change neither the token nor the address. -/
theorem put_account_sameSources (hl : st.Linked) (hk : key ≠ tokenAccount) (ht : LinksValid text) :
    SameSources st (st.put (accountAt key) text) where
  token := by
    have ha : accountAt tokenAccount ≠ accountAt key := fun h => hk (accountAt_inj h).symm
    simp only [token?, account?, secret?, find_put_other ha,
      find_put_other (secretAt_ne_accountAt _ key)]
  address := by
    simp only [address, find_put_other (infrastructureAt_ne_accountAt key)]
  secrets k := find_put_other (secretAt_ne_accountAt k key)
  linked := by
    intro k sa hs name hn
    by_cases hka : k = key
    · subst hka
      rw [account?, find_put] at hs
      cases text with
      | none => cases hs
      | some t => exact ht sa (Option.some.inj hs) name hn
    · have ha : accountAt k ≠ accountAt key := fun h => hka (accountAt_inj h)
      rw [account?, find_put_other ha] at hs
      exact hl k sa hs name hn

end Store

def Others (a : Address) (st st' : Store) : Prop := st'.objects a = st.objects a

theorem preserves_others (a : Address) : Preserves (Others a) a where
  trans _ _ _ h h' := h'.trans h
  same _ _ h := h

def Watching (st : Store) (watched : ObjectKey) (account : Option (Option ServiceAccount)) (i : Nat)
    (c : Store) : Prop :=
  SameSources st c ∧ (i = 0 → c.account? watched = account)

variable {cluster watched : ObjectKey} {st hub : Store} {t address : String}
  {account : Option (Option ServiceAccount)} {fails : Nat → Bool}

theorem watching_sources :
    Sources (Watching st watched account) watched account st.token? st.address where
  account _ hc := hc.2 rfl
  token _ _ hc := hc.1.token
  address _ _ hc := hc.1.address
  secrets _ _ _ _ hc hd k := (hc.1.secrets k).trans (hd.1.secrets k).symm
  linked _ _ hc := hc.1.linked

/-- The hub has the cluster's secret if the service account is there, with an empty address if that
could not be read, and has none if it is not there. -/
def Agrees (cluster : ObjectKey) (t address : String) (fails : Nat → Bool) (hub : Store) :
    Option (Option ServiceAccount) → Prop
  | none => hub.secret? cluster.clusterSecret = none
  | some none => False
  | some (some _) => hub.Holds cluster t (if fails 3 then "" else address)

theorem Settled.agrees {p : Option Outcome × Store}
    (hs : Settled cluster account (some t) address fails hub p) (hp : p.1.isSome) :
    Agrees cluster t address fails p.2 account := by
  cases hs with
  | deleted ha =>
    subst ha
    exact Store.secret_absent.mpr (Store.delete_gone _ _)
  | created sa t ha ht | updated sa t old ha ht =>
    subst ha
    cases ht
    exact Store.publish_holds hub cluster _ _
  | failed => cases hp

theorem Agrees.others (ha : Agrees cluster t address fails hub account) {hub' : Store}
    (hh : Others (secretAt cluster.clusterSecret) hub hub') :
    Agrees cluster t address fails hub' account := by
  have hf : hub'.secret? cluster.clusterSecret = hub.secret? cluster.clusterSecret :=
    (preserves_others _).find hh _
  match account, ha with
  | none, ha => exact hf.trans ha
  | some (some sa), ⟨version, ha⟩ => exact ⟨version, hf.trans ha⟩

theorem Store.isSome_find {α : Type} (st : Store) (f : Json → Option α) (a : Address) :
    (st.find f a).isSome = (st.objects a).isSome := Option.isSome_map

theorem Agrees.exists_iff (ha : Agrees cluster t address fails hub account)
    (hs : st.account? watched = account) :
    (hub.objects (secretAt cluster.clusterSecret)).isSome
      ↔ (st.objects (accountAt watched)).isSome := by
  rw [← st.isSome_find ServiceAccount.decode?, ← hub.isSome_find Secret.decode?]
  change (hub.secret? cluster.clusterSecret).isSome ↔ (st.account? watched).isSome
  rw [hs]
  match account, ha with
  | none, ha =>
    have ha : hub.secret? cluster.clusterSecret = none := ha
    simp [ha]
  | some (some sa), ⟨version, ha⟩ => simp [ha]

theorem Agrees.holds (ha : Agrees cluster t address fails hub account)
    (hs : st.account? watched = account) (he : (st.objects (accountAt watched)).isSome) :
    hub.Holds cluster t (if fails 3 then "" else address) := by
  rw [← st.isSome_find ServiceAccount.decode?] at he
  change (st.account? watched).isSome at he
  rw [hs] at he
  match account, ha with
  | none, _ => cases he
  | some (some sa), ha => exact ha

/-- For each request made so far, `served` says whether it failed. -/
def Follows (fails : Nat → Bool) (served : List Bool) : Prop :=
  ∀ i b, served[i]? = some b → fails i = b

theorem follows_getD (served : List Bool) : Follows (fun i => served.getD i false) served := by
  intro i b hb
  simp [List.getD_eq_getElem?_getD, hb]

theorem Follows.append {served : List Bool} {b : Bool} (hf : Follows fails (served ++ [b])) :
    Follows fails served ∧ fails served.length = b := by
  refine ⟨fun i c hc => hf i c ?_, hf _ b (by simp)⟩
  obtain ⟨hi, -⟩ := List.getElem?_eq_some_iff.mp hc
  rwa [List.getElem?_append_left hi]

variable (cluster watched st t account) in
/-- Whichever of the further requests fail, the rest of a reconciliation ends in agreement if it
succeeds. -/
def LeadsToAgreement (served : List Bool) (hub : Store) (x : Exchange (Except SyncError Outcome)) :
    Prop :=
  ∀ fails, Follows fails served →
    x.Ensures (honest (Watching st watched account) (Others (secretAt cluster.clusterSecret)) fails)
      (hub, served.length)
      fun r s => r.toOption.isSome → Agrees cluster t st.address fails s.1 account

namespace LeadsToAgreement

variable {served : List Bool} {x : Exchange (Except SyncError Outcome)} {s : Server} {r : Request}
  {next : Answer → Exchange (Except SyncError Outcome)}

theorem reconcile (hc : cluster.Valid) (hw : watched.Valid) (ht : st.token? = some t) :
    LeadsToAgreement cluster watched st t account [] hub (Exchange.reconcile cluster watched) := by
  intro fails _
  apply (Exchange.reconcile_settles hc hw (preserves_others _) watching_sources).mono
  rintro r ⟨hub', i⟩ ⟨hub₁, -, hr⟩ hs
  have hd := settle_settled cluster account st.token? st.address fails hub₁
  rw [← hr, ht] at hd
  exact hd.agrees hs

theorem others (hx : LeadsToAgreement cluster watched st t account served hub x) {hub' : Store}
    (hh : Others (secretAt cluster.clusterSecret) hub hub') :
    LeadsToAgreement cluster watched st t account served hub' x := by
  intro fails hf
  replace hx := hx fails hf
  induction x with
  | done r => exact fun hs => (hx hs).others hh
  | log l next ih => exact ih hx
  | ask s r next =>
    -- such a change might as well have come right before the request
    obtain ⟨hr, hx⟩ := hx
    exact ⟨hr, fun a st' ⟨hi, h, hd, ha⟩ => hx a st' ⟨hi, h, hd.trans hh, ha⟩⟩

theorem asks (hx : LeadsToAgreement cluster watched st t account served hub (.ask s r next)) :
    s = .cluster → r.method = .get :=
  (hx _ (follows_getD served)).1

theorem refused (hx : LeadsToAgreement cluster watched st t account served hub (.ask s r next))
    {a : Answer} (ha : a.Refuses) :
    LeadsToAgreement cluster watched st t account (served ++ [true]) hub (next a) := by
  intro fails hf
  obtain ⟨hf, hn⟩ := hf.append
  rw [List.length_append]
  exact (hx fails hf).2 a _ (honest.refuses rfl hn ha)

theorem read (hx : LeadsToAgreement cluster watched st t account served hub (.ask .cluster r next))
    {c : Store} (hc : SameSources st c) (hs : served = [] → c.account? watched = account) :
    LeadsToAgreement cluster watched st t account (served ++ [false]) hub (next (c.serve r).1) := by
  intro fails hf
  obtain ⟨hf, hn⟩ := hf.append
  rw [List.length_append]
  exact (hx fails hf).2 _ _
    (honest.reads rfl hn ⟨hc, fun h => hs (List.length_eq_zero_iff.mp h)⟩)

theorem written (hx : LeadsToAgreement cluster watched st t account served hub (.ask .hub r next)) :
    LeadsToAgreement cluster watched st t account (served ++ [false]) (hub.serve r).2
      (next (hub.serve r).1) := by
  intro fails hf
  obtain ⟨hf, hn⟩ := hf.append
  rw [List.length_append]
  exact (hx fails hf).2 _ _ (honest.serves rfl hn)

theorem advance (hx : LeadsToAgreement cluster watched st t account served hub x) :
    match x.advance.2 with
    | .done r => r.toOption.isSome →
      Agrees cluster t st.address (fun i => served.getD i false) hub account
    | .asks s r next =>
      LeadsToAgreement cluster watched st t account served hub (.ask s r next) := by
  have hx := fun fails hf => (Exchange.ensures_advance x _).mp (hx fails hf)
  generalize x.advance.2 = p at hx
  cases p with
  | done r => exact hx _ (follows_getD served)
  | asks s r next => exact hx

end LeadsToAgreement

end TokenCourier
