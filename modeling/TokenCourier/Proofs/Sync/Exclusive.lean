import TokenCourier.Proofs.Store.Shared
import TokenCourier.Proofs.Sync.Discipline
import TokenCourier.Proofs.Sync.Refines

namespace TokenCourier

open Exchange

section Paths

theorem takeWhile_query (cs query : List Char) :
    ((cs ++ '?' :: query).takeWhile (· != '#')).takeWhile (· != '?')
      = (cs.takeWhile (· != '#')).takeWhile (· != '?') := by
  induction cs with
  | nil => simp
  | cons c cs ih =>
    by_cases hf : c = '#'
    · simp [hf]
    · by_cases hs : c = '?'
      · simp [hs]
      · simpa [hf, hs] using ih

variable {collection name body : String} {g p : Request}

theorem replace_path (hg : Request.get collection name = .ok g)
    (hp : Request.replace collection name body = .ok p) : p.path = g.path := by
  obtain ⟨-, -, q, hg⟩ := Request.buildNamed_ok hg
  obtain ⟨-, -, q', hp⟩ := Request.buildNamed_ok hp
  rw [Target.parse_path hg, Target.parse_path hp, String.append_empty, String.toList_append]
  exact congrArg String.ofList (takeWhile_query _ _)

theorem replace_target (hg : Request.get collection name = .ok g)
    (hp : Request.replace collection name body = .ok p) : p.target? = g.target? := by
  simp only [Request.target?, (Request.buildNamed_ok hg).1, (Request.buildNamed_ok hp).1,
    replace_path hg hp]

section Targets

variable {cluster : ObjectKey} {q : Request} (hc : cluster.Valid)

include hc

theorem get_target
    (h : Request.get (secretsOf cluster.clusterSecret.ns) cluster.clusterSecret.name = .ok q) :
    q.target? = some (secretAt cluster.clusterSecret) := by
  rw [Request.get_named (clusterSecrets_fit hc) (clusterSecret_fits hc) (by decide)
    (clusterSecret_nonempty cluster)] at h
  cases h
  rw [Request.target?]
  exact clusterSecret_path hc

theorem delete_target
    (h : Request.delete (secretsOf cluster.clusterSecret.ns) cluster.clusterSecret.name = .ok q) :
    q.target? = some (secretAt cluster.clusterSecret) := by
  rw [Request.delete_named (clusterSecrets_fit hc) (clusterSecret_fits hc) (by decide)
    (clusterSecret_nonempty cluster)] at h
  cases h
  rw [Request.target?]
  exact clusterSecret_path hc

theorem put_target
    (h : Request.replace (secretsOf cluster.clusterSecret.ns) cluster.clusterSecret.name body
      = .ok q) : q.target? = some (secretAt cluster.clusterSecret) := by
  have hg := Request.get_named (clusterSecrets_fit hc) (clusterSecret_fits hc) (by decide)
    (clusterSecret_nonempty cluster)
  exact (replace_target hg h).trans (get_target hc hg)

theorem post_target {s : Secret} (hn : s.metadata.name = some cluster.clusterSecret.name)
    (h : Request.create (secretsOf cluster.clusterSecret.ns) s.toJson.compact = .ok q) :
    q.target? = some (secretAt cluster.clusterSecret) := by
  rw [Request.create_in (clusterSecrets_fit hc) (by decide)] at h
  cases h
  have hp : Collection.ofPath? (secretsOf cluster.clusterSecret.ns)
      = some (.secrets cluster.clusterSecret.ns) := ofPath_secrets hc.ns.oneSegment
  have hs : s.toJson.name? = some cluster.clusterSecret.name :=
    (Secret.fields_of_decode (Secret.decode_toJson s)).1.trans hn
  simp [Request.target?, hp, Json.read?_compact _ (Secret.plain_toJson s), hs, secretAt]

end Targets

end Paths

/-- The hub's secret was read, and its replacement sent. -/
structure Replaced (cluster : ObjectKey) (g p : Asked) (r : Except SyncError Outcome) : Prop where
  read : g.Gets .hub (secretsOf cluster.clusterSecret.ns) cluster.clusterSecret.name
  server : p.server = .hub
  carries : ∃ s current, g.answer.object Secret.decode? = .ok current ∧
    Request.replace (secretsOf cluster.clusterSecret.ns) cluster.clusterSecret.name
      (Secret.replacing s current).toJson.compact = .ok p.request
  result : r = Write.update.result cluster (p.answer.object Secret.decode?)

structure Renewed (cluster : ObjectKey) (g p : Asked) (r : Except SyncError Outcome) : Prop where
  read : g.Gets .hub (secretsOf cluster.clusterSecret.ns) cluster.clusterSecret.name
  absent : g.answer.Absent
  server : p.server = .hub
  carries : ∃ s : Secret, s.metadata.name = some cluster.clusterSecret.name ∧
    Request.create (secretsOf cluster.clusterSecret.ns) s.toJson.compact = .ok p.request
  result : r = Write.create.result cluster (p.answer.object Secret.decode?)

theorem Undertook.unique {cluster : ObjectKey} {r : Except SyncError Outcome} {v w : Write}
    (hv : Undertook v cluster r) (hw : Undertook w cluster r) : v = w := by
  obtain rfl | ⟨e, rfl⟩ := hv
  · obtain hw | ⟨e, hw⟩ := hw
    · cases v <;> cases w <;> first | rfl | cases hw
    · cases hw
  · obtain hw | ⟨d, hw⟩ := hw
    · cases hw
    · cases hw
      rfl

theorem Prepared.filter_hub {key : ObjectKey} {ps : List Asked} (h : Prepared key ps)
    (us : List Asked) : (ps ++ us).filter (·.server = .hub) = us.filter (·.server = .hub) := by
  have hn : ps.filter (·.server = .hub) = [] := by
    rw [List.filter_eq_nil_iff]
    intro q hq
    simp [(h.reads q hq).1]
  rw [List.filter_append, hn, List.nil_append]

namespace Exchange

variable {cluster key : ObjectKey} {qs : List Asked} {p : Asked} {r : Except SyncError Outcome}

theorem Course.delivered {w : Write} (h : Course cluster key qs r) (hu : Undertook w cluster r)
    (hw : w ≠ .delete) : ∃ s us, Delivery cluster s us r ∧
      s.metadata.name = some cluster.clusterSecret.name ∧
      qs.filter (·.server = .hub) = us.filter (·.server = .hub) := by
  cases h with
  | unread => exact absurd rfl (hu.read _)
  | departs => exact absurd (hu.unique (undertook_departure _)) hw
  | unresolved => exact absurd rfl (hu.resolved _)
  | publishes hx ho ht hi hd => exact ⟨_, _, hd, rfl, (prepared hx ho ht hi).filter_hub _⟩

theorem Course.replaced (h : Course cluster key qs r) (hu : Undertook .update cluster r) :
    ∃ g ws, qs.filter (·.server = .hub) = g :: ws ∧
      (ws = [] ∧ r ≠ .ok .updated ∨ ∃ p, ws = [p] ∧ Replaced cluster g p r) := by
  obtain ⟨s, us, hd, -, hf⟩ := h.delivered hu nofun
  rw [hf]
  cases hd with
  | unread => exact absurd rfl (hu.read _)
  | creates => cases hu.unique (undertook_result _ _)
  | replaces hs hc hy =>
    obtain rfl := absentAsNone_some hc
    obtain ⟨g, rfl, hg, hcur⟩ := hs.read_ok
    cases hy with
    | unbuilt => exact ⟨g, [], by simp [hg.server], .inl ⟨rfl, nofun⟩⟩
    | answered a hr =>
      have hp : Replaced cluster g ⟨.hub, _, a⟩ _ := ⟨hg, rfl, ⟨_, _, hcur, hr⟩, rfl⟩
      exact ⟨g, _, by simp [hg.server], .inr ⟨_, rfl, hp⟩⟩

theorem Course.renewed (h : Course cluster key qs r) (hu : Undertook .create cluster r) :
    ∃ g ws, qs.filter (·.server = .hub) = g :: ws ∧
      (ws = [] ∧ r ≠ .ok .created ∨ ∃ p, ws = [p] ∧ Renewed cluster g p r) := by
  obtain ⟨s, us, hd, hn, hf⟩ := h.delivered hu nofun
  rw [hf]
  cases hd with
  | unread => exact absurd rfl (hu.read _)
  | replaces => cases hu.unique (undertook_result _ _)
  | creates hs ha hy =>
    obtain ⟨g, rfl, hg, ha⟩ := hs.read_absent ha
    cases hy with
    | unbuilt => exact ⟨g, [], by simp [hg.server], .inl ⟨rfl, nofun⟩⟩
    | answered a hr =>
      have hp : Renewed cluster g ⟨.hub, _, a⟩ _ := ⟨hg, ha, rfl, ⟨s, hn, hr⟩, rfl⟩
      exact ⟨g, _, by simp [hg.server], .inr ⟨_, rfl, hp⟩⟩

theorem Delivery.target {s : Secret} (hc : cluster.Valid)
    (hn : s.metadata.name = some cluster.clusterSecret.name) (h : Delivery cluster s qs r) :
    ∀ q ∈ qs, q.request.target? = some (secretAt cluster.clusterSecret) := by
  cases h with
  | unread hx => exact fun q hq => get_target hc (hx.asks q hq).2
  | creates hx _ hy =>
    exact List.forall_mem_append.mpr ⟨fun q hq => get_target hc (hx.asks q hq).2,
      fun q hq => post_target hc hn (hy.asks q hq).2⟩
  | replaces hx _ hy =>
    exact List.forall_mem_append.mpr ⟨fun q hq => get_target hc (hx.asks q hq).2,
      fun q hq => put_target hc (hy.asks q hq).2⟩

theorem Course.target (hc : cluster.Valid) (h : Course cluster key qs r) :
    ∀ q ∈ qs.filter (·.server = .hub),
      q.request.target? = some (secretAt cluster.clusterSecret) := by
  have hcl : ∀ {us : List Asked}, (∀ p ∈ us, p.server = .cluster) →
      us.filter (·.server = .hub) = [] := by
    intro us hu
    rw [List.filter_eq_nil_iff]
    intro p hp
    simp [hu p hp]
  cases h with
  | unread hx =>
    rw [hcl fun p hp => (hx.gets p hp).server]
    nofun
  | departs hx _ hd =>
    rw [List.filter_append, hcl fun p hp => (hx.gets p hp).server]
    exact fun q hq => delete_target hc (hd.asks q (List.mem_of_mem_filter hq)).2
  | unresolved hx _ ht =>
    rw [List.filter_append, hcl fun p hp => (hx.gets p hp).server, hcl fun p hp => (ht.gets p hp).1]
    nofun
  | publishes hx ho ht hi hd =>
    rw [(prepared hx ho ht hi).filter_hub]
    exact fun q hq => hd.target hc rfl q (List.mem_of_mem_filter hq)

end Exchange

/-- A store shows what is read from it. Then others have their turn, and then it serves a write. -/
structure Window (st : Store) (g : Asked) (mid : List Happening) (p : Asked) : Prop where
  versioned : st.Versioned
  shown : g.answer = (st.serve g.request).1
  foreign : ∀ x ∈ mid, x.Foreign
  admits : st.AdmitsAll mid
  served : p.answer = ((st.after mid).serve p.request).1

section Window

variable {cluster : ObjectKey} {g p : Asked} {r : Except SyncError Outcome} {st : Store}
  {mid : List Happening} {a : Address}

theorem Replaced.target (h : Replaced cluster g p r) : p.request.target? = g.request.target? := by
  obtain ⟨s, current, -, hp⟩ := h.carries
  exact replace_target h.read.request hp

/-- A replacement is refused if the secret was written after it was read. -/
theorem Replaced.overtaken (h : Replaced cluster g p r) (hw : Window st g mid p) :
    ∃ a, g.request.target? = some a ∧ ((∃ x ∈ mid, x.Writes a) →
      ((st.after mid).serve p.request).2 = st.after mid ∧ ∃ e, p.answer.text = .error e) := by
  obtain ⟨s, current, hcur, hp⟩ := h.carries
  obtain ⟨hm, hb, -⟩ := Request.buildNamed_ok hp
  obtain ⟨text, ht, hd⟩ := Answer.object_ok hcur
  obtain ⟨v, hj, hd⟩ := Option.bind_eq_some_iff.mp hd
  rw [hw.shown] at ht
  obtain ⟨a, hta, ho⟩ := Store.get_there h.read.method ht
  obtain ⟨k, -, hk, hver⟩ := (hw.versioned a).later text ho
  rw [hj, Option.bind_some, (Secret.fields_of_decode hd).2] at hver
  have hov : (s.replacing current).toJson.version? = some (toString k) :=
    (Secret.fields_of_decode (Secret.decode_toJson _)).2.trans hver
  have hread : Json.read? p.request.body = some (s.replacing current).toJson := by
    rw [hb]
    exact Json.read?_compact _ (Secret.plain_toJson _)
  refine ⟨a, hta, fun hwr => ?_⟩
  rw [hw.served]
  exact Store.put_outdated hm (h.target.trans hta) hread hov
    (Store.since_after hw.foreign hw.admits hwr) hk

theorem Renewed.read_none (h : Renewed cluster g p r) (hw : Window st g mid p) :
    g.request.target?.bind st.objects = none := by
  obtain ⟨e, he, -⟩ := h.absent
  exact Store.get_error h.read.method (hw.shown ▸ he)

theorem Renewed.method (h : Renewed cluster g p r) : p.request.method = .post := by
  obtain ⟨s, -, hp⟩ := h.carries
  exact (Request.build_ok hp).1

theorem Replaced.method (h : Replaced cluster g p r) : p.request.method = .put := by
  obtain ⟨s, current, -, hp⟩ := h.carries
  exact (Request.buildNamed_ok hp).1

end Window

def hubRequests (hs : List Happening) : List Asked :=
  (hs.filterMap Happening.asked?).filter (·.server = .hub)

section Hub

variable {hs gs : List Happening} {g p : Asked} {x : Happening}

theorem hubRequests_append (hs gs : List Happening) :
    hubRequests (hs ++ gs) = hubRequests hs ++ hubRequests gs := by
  simp [hubRequests]

theorem hubRequests_cons (hg : g.server = .hub) (hs : List Happening) :
    hubRequests (.asked g :: hs) = g :: hubRequests hs := by
  simp [hubRequests, Happening.asked?, hg]

theorem foreign_of_hubRequests (h : hubRequests hs = []) : ∀ x ∈ hs, x.Foreign := by
  intro x hx
  cases x with
  | asked q =>
    cases hq : q.server with
    | cluster => exact hq
    | hub =>
      have hm : q ∈ hubRequests hs := by
        simpa [hubRequests, hq] using ⟨_, hx, rfl⟩
      rw [h] at hm
      cases hm
  | saved | removed => trivial

end Hub

/-- The hub is read, and then asked for a write. -/
structure Spans (hs pre : List Happening) (g : Asked) (mid : List Happening) (p : Asked)
    (m : Method) : Prop where
  eq : ∃ post, hs = pre ++ .asked g :: (mid ++ .asked p :: post)
  reads : g.server = .hub ∧ g.request.method = .get
  writes : p.server = .hub ∧ p.request.method = m

section Spans

variable {cluster key : ObjectKey} {hub : Store} {hs pre mid : List Happening} {g p : Asked}
  {m : Method} {r : Except SyncError Outcome}

theorem spans_of_hubRequests (hq : hubRequests hs = [g, p])
    (hg : g.server = .hub ∧ g.request.method = .get)
    (hp : p.server = .hub ∧ p.request.method = m) : ∃ pre mid, Spans hs pre g mid p m := by
  have hasked : ∀ {x : Happening} {q}, x.asked?.filter (·.server = .hub) = some q →
      x = .asked q := by
    intro x q h
    obtain ⟨h, -⟩ := Option.filter_eq_some_iff.mp h
    exact Happening.asked_of_asked? h
  rw [hubRequests, List.filter_filterMap] at hq
  obtain ⟨pre, x, xs, rfl, -, hx, hq⟩ := List.filterMap_eq_cons_iff.mp hq
  obtain ⟨mid, y, post, rfl, -, hy, -⟩ := List.filterMap_eq_cons_iff.mp hq
  obtain rfl := hasked hx
  obtain rfl := hasked hy
  exact ⟨pre, mid, ⟨post, rfl⟩, hg, hp⟩

theorem methods_of_write {xs ys zs : List Asked} {f : Asked → Method}
    (h : xs.map f ++ .get :: (ys.map f ++ m :: zs.map f)
      ∈ [[], [.delete], [.get], [.get, .post], [.get, .put]]) :
    xs = [] ∧ ys = [] ∧ zs = [] ∧ (m = .post ∨ m = .put) := by
  rcases xs with _ | ⟨x, _ | ⟨y, xs⟩⟩
  · rcases ys with _ | ⟨y, ys⟩ <;> simp at h ⊢
    tauto
  · simp at h
  · simp at h

theorem Spans.inside (h : Spans hs pre g mid p m)
    (hd : Disciplined cluster key (hs.filterMap Happening.asked?) r) :
    hubRequests pre = [] ∧ hubRequests mid = [] ∧ hubRequests hs = [g, p] ∧
      (m = .post ∨ m = .put) := by
  obtain ⟨post, rfl⟩ := h.eq
  have hh : hubRequests (pre ++ .asked g :: (mid ++ .asked p :: post))
      = hubRequests pre ++ g :: (hubRequests mid ++ p :: hubRequests post) := by
    rw [hubRequests_append, hubRequests_cons h.reads.1, hubRequests_append,
      hubRequests_cons h.writes.1]
  have hm : (hubRequests (pre ++ .asked g :: (mid ++ .asked p :: post))).map (·.request.method)
      ∈ [[], [.delete], [.get], [.get, .post], [.get, .put]] := hd.hub
  rw [hh, List.map_append, List.map_cons, List.map_append, List.map_cons, h.reads.2,
    h.writes.2] at hm
  obtain ⟨hpre, hmid, hpost, hm⟩ := methods_of_write hm
  exact ⟨hpre, hmid, by simp [hh, hpre, hmid, hpost], hm⟩

theorem Store.unchanged_by_get {st : Store} {q : Request} (hm : q.method = .get) :
    (st.serve q).2 = st := by
  cases hp : Address.ofPath? q.path <;> simp only [Store.serve, hm, hp]

theorem Spans.window (h : Spans hs pre g mid p m) (hv : hub.Versioned) (ha : hub.AdmitsAll hs)
    (hd : Disciplined cluster key (hs.filterMap Happening.asked?) r) :
    Window (hub.after pre) g mid p ∧
      hub.after (pre ++ .asked g :: mid) = (hub.after pre).after mid := by
  obtain ⟨hpre, hmid, -⟩ := h.inside hd
  obtain ⟨post, rfl⟩ := h.eq
  obtain ⟨hap, hag, ham⟩ := Store.admitsAll_append.mp ha
  have hg : (hub.after pre).follow (.asked g) = hub.after pre := by
    rw [Store.follow_hub h.reads.1, Store.unchanged_by_get h.reads.2]
  rw [hg] at ham
  obtain ⟨ham, hp, -⟩ := Store.admitsAll_append.mp ham
  refine ⟨⟨hv.after (foreign_of_hubRequests hpre) hap, hag h.reads.1, foreign_of_hubRequests hmid,
    ham, hp h.writes.1⟩, ?_⟩
  rw [Store.after_append]
  change ((hub.after pre).follow (.asked g)).after mid = _
  rw [hg]

end Spans

def Write.method : Write → Method
  | .create => .post
  | .update => .put
  | .delete => .delete

/-- No write to the hub's secret is undone without having been read. -/
structure NoLostUpdate (hub : Store) (cluster : ObjectKey) (hs : List Happening)
    (r : Except SyncError Outcome) : Prop where
  updated : r = .ok .updated → ∃ pre g mid p a, Spans hs pre g mid p .put ∧
    g.request.target? = some a ∧ p.request.target? = some a ∧ ∀ x ∈ mid, ¬ x.Writes a
  created : r = .ok .created → ∃ pre g mid p a, Spans hs pre g mid p .post ∧
    p.request.target? = some a ∧ (hub.after (pre ++ .asked g :: mid)).objects a = none
  overtaken : ∀ pre g mid p w a, Spans hs pre g mid p w.method → p.request.target? = some a →
    (hub.after (pre ++ .asked g :: mid)).objects a
      ≠ g.request.target?.bind (hub.after pre).objects →
    hub.after (pre ++ .asked g :: mid ++ [.asked p]) = hub.after (pre ++ .asked g :: mid) ∧
      ∃ e, p.answer.text = .error e ∧
        r = .error (.write w (toString cluster.clusterSecret) e)
  target : cluster.Valid → ∀ q ∈ hubRequests hs,
    q.request.target? = some (secretAt cluster.clusterSecret)

section NoLostUpdate

variable {cluster key : ObjectKey} {hub : Store} {hs pre mid : List Happening} {g p : Asked}
  {r : Except SyncError Outcome} {a : Address}

theorem Spans.asked {m : Method} (h : Spans hs pre g mid p m) :
    p ∈ hs.filterMap Happening.asked? := by
  obtain ⟨post, rfl⟩ := h.eq
  exact List.mem_filterMap.mpr ⟨.asked p, by simp, rfl⟩

theorem Spans.only {m : Method} {A : Prop} {P : Asked → Asked → Prop}
    (h : Spans hs pre g mid p m)
    (hd : Disciplined cluster key (hs.filterMap Happening.asked?) r)
    (hw : ∃ g ws, hubRequests hs = g :: ws ∧ (ws = [] ∧ A ∨ ∃ p, ws = [p] ∧ P g p)) : P g p := by
  obtain ⟨-, -, hh, -⟩ := h.inside hd
  obtain ⟨q, ws, hq, hw⟩ := hw
  obtain ⟨rfl, rfl⟩ := List.cons.inj (hh.symm.trans hq)
  obtain ⟨hw, -⟩ | ⟨q, hw, hr⟩ := hw <;> cases hw
  exact hr

theorem Spans.replaced (h : Spans hs pre g mid p .put)
    (hc : Course cluster key (hs.filterMap Happening.asked?) r) : Replaced cluster g p r := by
  have hd := Disciplined.of_course hc
  obtain ⟨-, -, -, -, -, -, hu⟩ := hd.replaces p h.asked h.writes.2
  exact h.only (P := fun g p => Replaced cluster g p r) hd (hc.replaced hu)

theorem Spans.renewed (h : Spans hs pre g mid p .post)
    (hc : Course cluster key (hs.filterMap Happening.asked?) r) : Renewed cluster g p r := by
  have hd := Disciplined.of_course hc
  obtain ⟨-, -, -, -, -, -, hu⟩ := hd.creates p h.asked h.writes.2
  exact h.only (P := fun g p => Renewed cluster g p r) hd (hc.renewed hu)

variable (hv : hub.Versioned) (ha : hub.AdmitsAll hs)
  (hc : Course cluster key (hs.filterMap Happening.asked?) r)

include hv ha hc

theorem updated_alone (hr : r = .ok .updated) : ∃ pre g mid p a, Spans hs pre g mid p .put ∧
    g.request.target? = some a ∧ p.request.target? = some a ∧ ∀ x ∈ mid, ¬ x.Writes a := by
  obtain ⟨g, ws, hq, ⟨-, hne⟩ | ⟨p, rfl, hp⟩⟩ := hc.replaced (.inl hr)
  · exact absurd hr hne
  · obtain ⟨pre, mid, hs⟩ := spans_of_hubRequests hq ⟨hp.read.server, hp.read.method⟩
      ⟨hp.server, hp.method⟩
    obtain ⟨a, hta, hover⟩ := hp.overtaken (hs.window hv ha (.of_course hc)).1
    refine ⟨pre, g, mid, p, a, hs, hta, hp.target.trans hta, fun x hx hxw => ?_⟩
    obtain ⟨-, e, he⟩ := hover ⟨x, hx, hxw⟩
    rw [hp.result, Answer.object_error he] at hr
    cases hr

theorem created_first (hr : r = .ok .created) : ∃ pre g mid p a, Spans hs pre g mid p .post ∧
    p.request.target? = some a ∧ (hub.after (pre ++ .asked g :: mid)).objects a = none := by
  obtain ⟨g, ws, hq, ⟨-, hne⟩ | ⟨p, rfl, hp⟩⟩ := hc.renewed (.inl hr)
  · exact absurd hr hne
  · obtain ⟨pre, mid, hs⟩ := spans_of_hubRequests hq ⟨hp.read.server, hp.read.method⟩
      ⟨hp.server, hp.method⟩
    obtain ⟨hw, haf⟩ := hs.window hv ha (.of_course hc)
    obtain ⟨a, hta, ho⟩ | ⟨-, e, he⟩ := ((hub.after pre).after mid).post_cases hp.method
    · exact ⟨pre, g, mid, p, a, hs, hta, by rw [haf, ho]⟩
    · rw [hp.result, hw.served, Answer.object_error he] at hr
      cases hr

theorem overtaken_replacement (hs : Spans hs pre g mid p .put) (hta : p.request.target? = some a)
    (hne : (hub.after (pre ++ .asked g :: mid)).objects a
      ≠ g.request.target?.bind (hub.after pre).objects) :
    hub.after (pre ++ .asked g :: mid ++ [.asked p]) = hub.after (pre ++ .asked g :: mid) ∧
      ∃ e, p.answer.text = .error e ∧
        r = .error (.write .update (toString cluster.clusterSecret) e) := by
  have hp := hs.replaced hc
  obtain ⟨hw, haf⟩ := hs.window hv ha (.of_course hc)
  obtain ⟨b, htb, hover⟩ := hp.overtaken hw
  cases hta.symm.trans (hp.target.trans htb)
  have hwr : ∃ x ∈ mid, x.Writes a := by
    by_contra hno
    simp only [not_exists, not_and] at hno
    rw [haf, Store.after_objects hw.foreign hno, htb] at hne
    exact hne rfl
  obtain ⟨hst, e, he⟩ := hover hwr
  rw [Store.after_concat, Store.follow_hub hp.server, haf]
  refine ⟨hst, e, he, ?_⟩
  rw [hp.result, Answer.object_error he]
  rfl

theorem overtaken_creation (hs : Spans hs pre g mid p .post) (hta : p.request.target? = some a)
    (hne : (hub.after (pre ++ .asked g :: mid)).objects a
      ≠ g.request.target?.bind (hub.after pre).objects) :
    hub.after (pre ++ .asked g :: mid ++ [.asked p]) = hub.after (pre ++ .asked g :: mid) ∧
      ∃ e, p.answer.text = .error e ∧
        r = .error (.write .create (toString cluster.clusterSecret) e) := by
  have hp := hs.renewed hc
  obtain ⟨hw, haf⟩ := hs.window hv ha (.of_course hc)
  rw [hp.read_none hw, haf] at hne
  rw [Store.after_concat, Store.follow_hub hp.server, haf]
  obtain ⟨b, htb, ho⟩ | ⟨hst, e, he⟩ := ((hub.after pre).after mid).post_cases hp.method
  · cases hta.symm.trans htb
    exact absurd ho hne
  · rw [← hw.served] at he
    refine ⟨hst, e, he, ?_⟩
    rw [hp.result, Answer.object_error he]
    rfl

end NoLostUpdate

/-- In step with other clients of an honest hub, a reconciliation writes only over what it read. -/
theorem reconcile_exclusive {hub : Store} {cluster key : ObjectKey} {said : List Said}
    {hs : List Happening} {r : Except SyncError Outcome} (hv : hub.Versioned)
    (ha : hub.AdmitsAll hs) (hr : (Exchange.reconcile cluster key).RunsTo said (.done r))
    (hs' : hs.filterMap Happening.asked? = calls said) : NoLostUpdate hub cluster hs r := by
  have hc := Exchange.reconcile_yields cluster key said r hr
  rw [← hs'] at hc
  exact {
    updated := updated_alone hv ha hc
    created := created_first hv ha hc
    overtaken := by
      intro pre g mid p w a hs
      obtain ⟨-, -, -, hw⟩ := hs.inside (.of_course hc)
      cases w with
      | create => exact overtaken_creation hv ha hc hs
      | update => exact overtaken_replacement hv ha hc hs
      | delete => cases hw <;> contradiction
    target := fun hcl => hc.target hcl }

def rivalText (version : Nat) : String := (Secret.versioned (toString version) {}).toJson.compact

def rivalAt : Address := secretAt ⟨"prod-cluster-secret", "fleet"⟩

theorem rivalText_version (n : Nat) :
    (Json.read? (rivalText n)).bind Json.version? = some (toString n) := by
  rw [rivalText, Json.read?_compact _ (Secret.plain_toJson _), Option.bind_some,
    (Secret.fields_of_decode (Secret.decode_toJson _)).2]
  rfl

def contested : Store where
  objects a := if a = rivalAt then some (rivalText 1) else none
  revision := 2

theorem contested_versioned : contested.Versioned := by
  refine fun a => ⟨Nat.zero_le _, fun text ht => ?_⟩
  simp only [contested, Option.ite_none_right_eq_some, Option.some.injEq] at ht
  obtain ⟨-, rfl⟩ := ht
  exact ⟨1, Nat.zero_le _, by decide, rivalText_version 1⟩

def bearer : Json :=
  .obj [("secrets", .arr [.obj [("name", .str issuedKey.name)]]),
    ("metadata", .obj [("annotations", .obj [(tokenValue, .str "t")])])]

def bearing : Answer := .ok ⟨200, bearer.compact.toUTF8⟩

/-- A run in which the other client writes again after each request to the hub. -/
def contended {α : Type} : Exchange α → Store → List Happening × α
  | .done a, _ => ([], a)
  | .log _ next, st => contended next st
  | .ask .cluster r next, st =>
    let rest := contended (next bearing) st
    (.asked ⟨.cluster, r, bearing⟩ :: rest.1, rest.2)
  | .ask .hub r next, st =>
    let a := (st.serve r).1
    let text := rivalText (st.serve r).2.revision
    let rest := contended (next a) ((st.serve r).2.put rivalAt (some text))
    (.asked ⟨.hub, r, a⟩ :: .saved rivalAt text :: rest.1, rest.2)

theorem contended_runsTo {α : Type} (x : Exchange α) (st : Store) :
    st.AdmitsAll (contended x st).1 ∧ ∃ said, x.RunsTo said (.done (contended x st).2) ∧
      (contended x st).1.filterMap Happening.asked? = calls said := by
  induction x generalizing st with
  | done a => exact ⟨trivial, [], .refl _, rfl⟩
  | log l next ih =>
    obtain ⟨ha, said, hg, hs⟩ := ih st
    exact ⟨ha, _, .log hg, hs⟩
  | ask s r next ih =>
    cases s with
    | cluster =>
      obtain ⟨ha, said, hg, hs⟩ := ih bearing st
      exact ⟨⟨nofun, ha⟩, _, .ask _ hg, congrArg (_ :: ·) hs⟩
    | hub =>
      obtain ⟨ha, said, hg, hs⟩ := ih (st.serve r).1
        ((st.serve r).2.put rivalAt (some (rivalText (st.serve r).2.revision)))
      exact ⟨⟨fun _ => rfl, rivalText_version _, ha⟩, _, .ask _ hg, congrArg (_ :: ·) hs⟩

/-- Between the read and the replacement, the other client has written the secret. -/
theorem contended_replacement :
    let run := contended (Exchange.reconcile ⟨"prod", "fleet"⟩ tokenAccount) contested
    NoLostUpdate contested ⟨"prod", "fleet"⟩ run.1 run.2 ∧
      ∃ pre g mid p, Spans run.1 pre g mid p .put ∧ ∃ x ∈ mid, x.Writes rivalAt := by
  intro run
  have hv : (run.1.take 7).map
      (fun x => (x.asked?.map fun q => (q.server, q.request.method), decide (x.Writes rivalAt))) =
      List.replicate 4 (some (.cluster, .get), false) ++
        [(some (.hub, .get), false), (none, true), (some (.hub, .put), false)] := by
    decide +kernel
  have hg : contested.AdmitsAll run.1 ∧ ∃ said,
      (Exchange.reconcile ⟨"prod", "fleet"⟩ tokenAccount).RunsTo said (.done run.2) ∧
        run.1.filterMap Happening.asked? = calls said := contended_runsTo _ _
  clear_value run
  obtain ⟨ha, said, hg, hs⟩ := hg
  refine ⟨reconcile_exclusive contested_versioned ha hg hs, ?_⟩
  obtain ⟨pre, zs, hl, -, hz⟩ := List.map_eq_append_iff.mp hv
  simp only [List.map_eq_cons_iff, List.map_eq_nil_iff, Prod.mk.injEq, Option.map_eq_some_iff,
    decide_eq_true_eq] at hz
  obtain ⟨y, _, rfl, ⟨⟨g, hg, hgm⟩, -⟩, x, _, rfl, ⟨-, hx⟩, z, _, rfl, ⟨⟨p, hp, hpm⟩, -⟩, rfl⟩ := hz
  obtain rfl := Happening.asked_of_asked? hg
  obtain rfl := Happening.asked_of_asked? hp
  refine ⟨pre, g, [x], p, ⟨⟨run.1.drop 7, ?_⟩, hgm, hpm⟩, x, by simp, hx⟩
  have ht := List.take_append_drop 7 run.1
  rw [hl] at ht
  simpa using ht.symm

end TokenCourier
