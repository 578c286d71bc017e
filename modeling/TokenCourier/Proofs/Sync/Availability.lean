import TokenCourier.Proofs.Api.Replies
import TokenCourier.Sync.Token

namespace TokenCourier

open Exchange Json

def ServedGroup.choice? (g : ServedGroup) : Option String := g.versions.head?.map g.recommended

def ServedGroup.recommended? (g : ServedGroup) : Option ServedVersion :=
  g.choice?.bind fun n => g.versions.find? (·.name == n)

namespace Discovery

/-- What a version of a group is said to serve. A resource comes with its name, its kind and a
version of its own, if it has one. -/
structure Listing where
  groupVersion : String
  resources : List (String × String × Option String)

namespace Listing

def decode? (v : Json) : Option Listing := do
  let ms ← v.members?
  guard (ofType "APIResourceList" ms)
  let groupVersion := (← last? "groupVersion" string? ms).getD ""
  some ⟨groupVersion, (← last? "resources" (list? ServedResource.decode?) ms).getD []⟩

def versionOf (l : Listing) (own : Option String) : String :=
  own.getD (ServedResource.versionOf l.groupVersion)

def served (l : Listing) : List ServedResource :=
  (l.resources.filter fun (name, _) => !name.toList.contains '/').map fun (name, kind, own) =>
    ⟨name, kind, l.versionOf own⟩

/-- Among the resources is the infrastructure in the version in which it is read, and not only a
part of it. -/
def Offers (l : Listing) : Prop :=
  ∃ name own, (name, Infrastructure.kind, own) ∈ l.resources ∧ '/' ∉ name.toList ∧
    l.versionOf own = Infrastructure.version

theorem decodeAll_eq (v : Json) : ServedResource.decodeAll? v = (decode? v).map served := by
  cases v with
  | obj ms =>
    simp only [ServedResource.decodeAll?, decode?, Json.members?, Option.bind_eq_bind,
      Option.bind_some, Option.map_bind, Function.comp_def, Option.map_some]
    rfl
  | _ => rfl

theorem offers_iff (l : Listing) : l.Offers ↔ l.served.any (·.isInfrastructure) = true := by
  simp only [Offers, served, List.any_map, List.any_filter, List.any_eq_true, Prod.exists,
    Function.comp_apply, ServedResource.isInfrastructure, Bool.and_eq_true, beq_iff_eq,
    Bool.not_eq_true', List.contains_eq_mem, decide_eq_false_iff_not]
  constructor
  · rintro ⟨name, own, hm, hn, hv⟩
    exact ⟨name, _, own, hm, hn, rfl, hv⟩
  · rintro ⟨name, kind, own, hm, hn, rfl, hv⟩
    exact ⟨name, own, hm, hn, hv⟩

end Listing

variable {answer : Request → Answer} {gs : List ServedGroup} {lists : String → Listing}

section Reading

def Serves {α : Type} (answer : Request → Answer) (path : String) (read : Json → Option α) (x : α) :
    Prop :=
  ∃ r, Request.build .get path "" = .ok r ∧ (answer r).DecodesTo read x

theorem Serves.fetch {α : Type} {path : String} {read : Json → Option α} {x : α}
    (h : Serves answer path read x) : (fetch path read).Returns answer (.ok x) := by
  obtain ⟨r, hr, hb⟩ := h
  refine ⟨[r], ?_⟩
  simp only [Exchange.fetch, hr, run, stateless, Answer.object_ok_iff.mpr hb, List.map_cons,
    List.map_nil]

theorem Serves.served {path : String} {l : Listing} (h : Serves answer path Listing.decode? l) :
    Serves answer path ServedResource.decodeAll? l.served := by
  obtain ⟨r, hr, s, t, ha, he, hd, hj⟩ := h
  refine ⟨r, hr, s, t, ha, he, hd, ?_⟩
  obtain ⟨v, hv, hl⟩ := Option.bind_eq_some_iff.mp hj
  rw [hv, Option.bind_some, Listing.decodeAll_eq, hl, Option.map_some]

theorem serves_of_fetch {α : Type} {path : String} {read : Json → Option α} {x : α}
    (h : result answer (fetch path read) = .ok x) : Serves answer path read x := by
  rw [Exchange.fetch] at h
  cases hr : Request.build .get path "" with
  | error e =>
    rw [hr] at h
    cases h
  | ok r =>
    rw [hr] at h
    exact ⟨r, hr, Answer.object_ok_iff.mp h⟩

def Listed (answer : Request → Answer) (lists : String → Listing) (vs : List ServedVersion) :
    Prop :=
  ∀ v ∈ vs, Serves answer ("/apis/" ++ v.path) Listing.decode? (lists v.path)

theorem resourcesOf_returns {vs : List ServedVersion} (h : Listed answer lists vs) :
    (resourcesOf vs).Returns answer (.ok (vs.map fun v => (v.name, (lists v.path).served))) := by
  induction vs with
  | nil => exact returns_done _
  | cons v vs ih =>
    obtain ⟨hv, hvs⟩ := List.forall_mem_cons.mp h
    exact hv.served.fetch.bind ((ih hvs).bind (returns_done _))

theorem readable_of_resources {vs : List ServedVersion} {rs : List (String × List ServedResource)}
    (h : result answer (resourcesOf vs) = .ok rs) :
    ∀ v ∈ vs, ∃ l, Serves answer ("/apis/" ++ v.path) ServedResource.decodeAll? l := by
  induction vs generalizing rs with
  | nil => nofun
  | cons v vs ih =>
    obtain ⟨l, hl, h⟩ := result_ok nofun h
    obtain ⟨rest, hr, -⟩ := result_ok nofun h
    exact List.forall_mem_cons.mpr ⟨⟨l, serves_of_fetch hl⟩, ih hr⟩

def best (g : ServedGroup) (lists : String → Listing) : List ServedResource :=
  (g.recommended?.map fun v => (lists v.path).served).getD []

theorem recommendedResources_returns {g : ServedGroup} (hn : g.versions ≠ [])
    (h : Listed answer lists g.versions) :
    (recommendedResources g).Returns answer (.ok (best g lists)) := by
  obtain ⟨name, versions, preferred⟩ := g
  cases versions with
  | nil => exact absurd rfl hn
  | cons v vs =>
    have hf : best ⟨name, v :: vs, preferred⟩ lists =
        ((((v :: vs).map fun v => (v.name, (lists v.path).served)).find?
          (·.1 == ServedGroup.recommended ⟨name, v :: vs, preferred⟩ v)).map (·.2)).getD [] := by
      rw [List.find?_map, Option.map_map]
      rfl
    rw [hf]
    refine (resourcesOf_returns h).bind ?_
    exact returns_done _

def Readable (answer : Request → Answer) (g : ServedGroup) : Prop :=
  g.versions ≠ [] ∧
    ∀ v ∈ g.versions, ∃ l, Serves answer ("/apis/" ++ v.path) ServedResource.decodeAll? l

theorem readable_of_recommended {g : ServedGroup} {rs : List ServedResource}
    (h : result answer (recommendedResources g) = .ok rs) : Readable answer g := by
  obtain ⟨name, versions, preferred⟩ := g
  cases versions with
  | nil => cases h
  | cons v vs =>
    obtain ⟨l, hl, -⟩ := result_ok nofun h
    exact ⟨List.cons_ne_nil v vs, readable_of_resources hl⟩

theorem readable_of_last {rs rs' : List ServedResource}
    (h : result answer (lastRecommended gs rs) = .ok rs') : ∀ g ∈ gs, Readable answer g := by
  induction gs generalizing rs with
  | nil => nofun
  | cons g gs ih =>
    obtain ⟨l, hl, h⟩ := result_ok nofun h
    exact List.forall_mem_cons.mpr ⟨readable_of_recommended hl, ih h⟩

theorem lastRecommended_returns {rs : List ServedResource}
    (h : ∀ g ∈ gs, g.versions ≠ [] ∧ Listed answer lists g.versions) :
    (lastRecommended gs rs).Returns answer (.ok ((gs.getLast?.map (best · lists)).getD rs)) := by
  induction gs generalizing rs with
  | nil => exact returns_done _
  | cons g gs ih =>
    obtain ⟨⟨hn, hl⟩, hgs⟩ := List.forall_mem_cons.mp h
    have hg : ((g :: gs).getLast?.map (best · lists)).getD rs
        = (gs.getLast?.map (best · lists)).getD (best g lists) := by
      cases gs <;> rfl
    rw [hg]
    refine (recommendedResources_returns hn hl).bind ?_
    exact ih hgs

end Reading

section Probe

def infrastructureGroups (gs : List ServedGroup) : List ServedGroup :=
  gs.filter (·.name == Infrastructure.group)

/-- A cluster that answers so serves these groups, and the infrastructure's among them in versions
with these lists. -/
structure Surveyed (answer : Request → Answer) (gs : List ServedGroup) (lists : String → Listing) :
    Prop where
  groups : Serves answer "/apis" ServedGroup.decodeAll? gs
  versions : ∀ g ∈ infrastructureGroups gs, g.versions ≠ [] ∧ Listed answer lists g.versions

def Served (gs : List ServedGroup) (lists : String → Listing) : Prop :=
  ∃ g ∈ infrastructureGroups gs, ∃ v ∈ g.versions, (lists v.path).Offers

/-- The infrastructure is served in the recommended version of its group. Of several groups of that
name, the last one counts. -/
def Recommended (gs : List ServedGroup) (lists : String → Listing) : Prop :=
  ∃ g v, (infrastructureGroups gs).getLast? = some g ∧ g.recommended? = some v ∧
    (lists v.path).Offers

theorem Recommended.served (h : Recommended gs lists) : Served gs lists := by
  obtain ⟨g, v, hg, hv, ho⟩ := h
  obtain ⟨first, -, hv⟩ := Option.bind_eq_some_iff.mp hv
  exact ⟨g, List.mem_of_getLast? hg, v, List.mem_of_find?_eq_some hv, ho⟩

theorem recommended_iff : Recommended gs lists ↔
    (((infrastructureGroups gs).getLast?.map (best · lists)).getD []).any (·.isInfrastructure)
      = true := by
  rw [Recommended]
  cases (infrastructureGroups gs).getLast? with
  | none => simp
  | some g =>
    cases hv : g.recommended? with
    | none => simp [best, hv]
    | some v => simp [best, hv, Listing.offers_iff]

def probe (answer : Request → Answer) : Except SyncError Bool := result answer infrastructureServed

def unavailable : LogLine :=
  ⟨.warn, "Infrastructure API (config.openshift.io/v1) not found, "
    ++ "the synced server address will be empty"⟩

def Warned (answer : Request → Answer) : Prop :=
  .log unavailable ∈ (checkInfrastructure.run (stateless fun _ => answer) ()).2.1

open Classical in
theorem infrastructureServed_returns (h : Surveyed answer gs lists) :
    infrastructureServed.Returns answer (.ok (decide (Recommended gs lists))) := by
  have hr : decide (Recommended gs lists) =
      (((infrastructureGroups gs).getLast?.map (best · lists)).getD []).any
        (·.isInfrastructure) := by
    rw [Bool.eq_iff_iff, decide_eq_true_iff]
    exact recommended_iff
  rw [hr]
  refine Returns.bind (a := .ok _) ?_ (returns_done _)
  refine h.groups.fetch.bind ?_
  exact lastRecommended_returns h.versions

theorem probe_eq (h : Surveyed answer gs lists) :
    ∃ b, probe answer = .ok b ∧ (b = true ↔ Recommended gs lists) := by
  classical
  exact ⟨_, (infrastructureServed_returns h).result, decide_eq_true_iff⟩

theorem Serves.listing {path : String} {rs : List ServedResource}
    (h : Serves answer path ServedResource.decodeAll? rs) :
    ∃ l, Serves answer path Listing.decode? l := by
  obtain ⟨r, hr, s, t, ha, he, hd, hj⟩ := h
  obtain ⟨v, hv, hl⟩ := Option.bind_eq_some_iff.mp hj
  rw [Listing.decodeAll_eq] at hl
  obtain ⟨l, hl, -⟩ := Option.map_eq_some_iff.mp hl
  refine ⟨l, r, hr, s, t, ha, he, hd, ?_⟩
  rw [hv]
  exact hl

theorem probe_ok_iff : (∃ b, probe answer = .ok b) ↔ ∃ gs lists, Surveyed answer gs lists := by
  constructor
  · rintro ⟨b, h⟩
    obtain ⟨rs, hr, -⟩ := result_ok nofun h
    obtain ⟨gs, hg, hr⟩ := result_ok nofun hr
    have hl : ∀ path, ∃ l, (∃ rs, Serves answer ("/apis/" ++ path) ServedResource.decodeAll? rs) →
        Serves answer ("/apis/" ++ path) Listing.decode? l := by
      intro path
      by_cases hp : ∃ rs, Serves answer ("/apis/" ++ path) ServedResource.decodeAll? rs
      · obtain ⟨l, hl⟩ := hp.choose_spec.listing
        exact ⟨l, fun _ => hl⟩
      · exact ⟨⟨"", []⟩, fun hp' => absurd hp' hp⟩
    choose lists hl using hl
    refine ⟨gs, lists, serves_of_fetch hg, fun g hgs => ?_⟩
    obtain ⟨hn, hv⟩ := readable_of_last hr g hgs
    exact ⟨hn, fun v hm => hl v.path (hv v hm)⟩
  · rintro ⟨gs, lists, h⟩
    obtain ⟨b, hb, -⟩ := probe_eq h
    exact ⟨b, hb⟩

theorem warned_iff (h : Surveyed answer gs lists) : Warned answer ↔ ¬ Recommended gs lists := by
  classical
  obtain ⟨rs, hr⟩ := infrastructureServed_returns h
  rw [Warned, checkInfrastructure, run_sequence, hr]
  by_cases hc : Recommended gs lists
  · refine iff_of_false ?_ (not_not_intro hc)
    simp [hc, info, run, unavailable]
  · refine iff_of_true ?_ hc
    rw [decide_eq_false hc]
    exact List.mem_append_right _ (List.mem_singleton_self _)

/-- The infrastructure is found at the start exactly if it is served, and nobody is told that it is
missing when it is served. -/
structure Agrees (answer : Request → Answer) (gs : List ServedGroup) (lists : String → Listing) :
    Prop where
  probe : ∃ b, Discovery.probe answer = .ok b ∧ (b = true ↔ Served gs lists)
  warned : Warned answer → ¬ Served gs lists

theorem agrees_iff (h : Surveyed answer gs lists) :
    Agrees answer gs lists ↔ (Served gs lists → Recommended gs lists) := by
  obtain ⟨b, hp, hb⟩ := probe_eq h
  constructor
  · intro ha hs
    obtain ⟨c, hc, hi⟩ := ha.probe
    cases hp.symm.trans hc
    exact hb.mp (hi.mpr hs)
  · intro hi
    refine ⟨⟨b, hp, hb.trans ⟨Recommended.served, hi⟩⟩, fun hw hs => ?_⟩
    exact (warned_iff h).mp hw (hi hs)

/-- There is one group of the infrastructure's name. Its versions have different names, and the
resources of each are of that version. -/
structure Plain (gs : List ServedGroup) (lists : String → Listing) (g : ServedGroup) : Prop where
  only : infrastructureGroups gs = [g]
  names : (g.versions.map (·.name)).Nodup
  own : ∀ v ∈ g.versions, ∀ r ∈ (lists v.path).resources, (lists v.path).versionOf r.2.2 = v.name

theorem Plain.offered {g : ServedGroup} {v : ServedVersion} (h : Plain gs lists g)
    (hv : v ∈ g.versions) (ho : (lists v.path).Offers) : v.name = Infrastructure.version := by
  obtain ⟨name, own, hm, -, hn⟩ := ho
  exact (h.own v hv _ hm).symm.trans hn

theorem Plain.recommended_iff {g : ServedGroup} (h : Plain gs lists g) (hs : Served gs lists) :
    Recommended gs lists ↔ g.choice? = some Infrastructure.version := by
  constructor
  · rintro ⟨g', v, hg, hv, ho⟩
    obtain rfl : g = g' := by simpa [h.only] using hg
    obtain ⟨n, hc, hf⟩ := Option.bind_eq_some_iff.mp hv
    have hn : v.name = n := by simpa using List.find?_some hf
    rw [hc, ← hn, h.offered (List.mem_of_find?_eq_some hf) ho]
  · intro hc
    obtain ⟨g', hg, v, hv, ho⟩ := hs
    obtain rfl : g' = g := by simpa [h.only] using hg
    have hn := h.offered hv ho
    -- no other version has that name, so the one recommended is the one in which it is served
    refine ⟨g', v, by rw [h.only]; rfl, ?_, ho⟩
    rw [ServedGroup.recommended?, hc, Option.bind_some]
    cases hf : g'.versions.find? (·.name == Infrastructure.version) with
    | none => exact absurd hn (by simpa using List.find?_eq_none.mp hf v hv)
    | some w =>
      have hw : w.name = Infrastructure.version := by simpa using List.find?_some hf
      have he := List.inj_on_of_nodup_map h.names (List.mem_of_find?_eq_some hf) hv
        (hw.trans hn.symm)
      rw [he]

end Probe

section Upgraded

def holding (values : List (String × Json)) (r : Request) : Answer :=
  (values.lookup r.path).elim Store.noResource (Store.reply 200)

def versionJson (v : ServedVersion) : Json :=
  .obj [("groupVersion", .str v.path), ("version", .str v.name)]

def groupJson (g : ServedGroup) : Json :=
  .obj ([("name", .str g.name), ("versions", .arr (g.versions.map versionJson))]
    ++ g.preferred.toList.map fun v => ("preferredVersion", versionJson v))

def groupsJson (gs : List ServedGroup) : Json :=
  .obj [("kind", .str "APIGroupList"), ("groups", .arr (gs.map groupJson))]

def resourceJson : String × String × Option String → Json
  | (name, kind, own) =>
    .obj ([("name", .str name), ("kind", .str kind)]
      ++ own.toList.map fun v => ("version", .str v))

def Listing.toJson (l : Listing) : Json :=
  .obj [("kind", .str "APIResourceList"), ("groupVersion", .str l.groupVersion),
    ("resources", .arr (l.resources.map resourceJson))]

def oldVersion : ServedVersion := ⟨"v1", "config.openshift.io/v1"⟩

def newVersion : ServedVersion := ⟨"v2", "config.openshift.io/v2"⟩

def upgradedGroup (preferred : ServedVersion) : ServedGroup :=
  ⟨Infrastructure.group, [newVersion, oldVersion], some preferred⟩

def upgradedLists (path : String) : Listing :=
  ⟨path, if path = oldVersion.path then [("infrastructures", Infrastructure.kind, none)] else []⟩

def upgraded (preferred : ServedVersion) : Request → Answer :=
  holding [("/apis", groupsJson [upgradedGroup preferred]),
    ("/apis/" ++ oldVersion.path, (upgradedLists oldVersion.path).toJson),
    ("/apis/" ++ newVersion.path, (upgradedLists newVersion.path).toJson),
    (Infrastructure.collectionPath none ++ "/cluster",
      .obj [("metadata", .obj []), ("spec", .obj []),
        ("status", .obj [("apiServerURL", .str "https://api.prod:6443")])])]

theorem upgraded_surveyed {preferred : ServedVersion}
    (h : preferred = oldVersion ∨ preferred = newVersion) :
    Surveyed (upgraded preferred) [upgradedGroup preferred] upgradedLists := by
  have hs : ¬ (400 ≤ 200 ∧ 200 < 600) := by decide
  have ho : Request.build .get ("/apis/" ++ oldVersion.path) ""
      = .ok ⟨.get, "/apis/config.openshift.io/v1", "", ""⟩ := by decide
  have hn : Request.build .get ("/apis/" ++ newVersion.path) ""
      = .ok ⟨.get, "/apis/config.openshift.io/v2", "", ""⟩ := by decide
  have hg : Request.build .get "/apis" "" = .ok ⟨.get, "/apis", "", ""⟩ := by decide
  refine ⟨⟨_, hg, ?_⟩, fun g hm => ?_⟩
  · obtain rfl | rfl := h <;> exact Answer.reply_decodesTo hs (by decide) rfl
  · obtain rfl : g = upgradedGroup preferred := by
      simpa [infrastructureGroups] using (List.mem_filter.mp hm).1
    refine ⟨List.cons_ne_nil _ _, fun v hv => ?_⟩
    obtain rfl | rfl : v = newVersion ∨ v = oldVersion := by simpa [upgradedGroup] using hv
    · exact ⟨_, hn, Answer.reply_decodesTo hs (by decide) rfl⟩
    · exact ⟨_, ho, Answer.reply_decodesTo hs (by decide) rfl⟩

theorem upgraded_serves (preferred : ServedVersion) :
    Served [upgradedGroup preferred] upgradedLists := by
  have hm : oldVersion ∈ (upgradedGroup preferred).versions := by simp [upgradedGroup]
  have ho : (upgradedLists oldVersion.path).Offers :=
    ⟨"infrastructures", none, by decide, by decide, by decide⟩
  exact ⟨upgradedGroup preferred, by simp [infrastructureGroups, upgradedGroup], oldVersion, hm, ho⟩

theorem new_offers_nothing : ¬ (upgradedLists newVersion.path).Offers := by
  rintro ⟨name, own, hm, -⟩
  have he : (upgradedLists newVersion.path).resources = [] := by decide
  rw [he] at hm
  cases hm

theorem new_hides : ¬ Recommended [upgradedGroup newVersion] upgradedLists := by
  rintro ⟨g, v, hg, hv, ho⟩
  obtain rfl : upgradedGroup newVersion = g := Option.some.inj hg
  obtain rfl : newVersion = v := Option.some.inj hv
  exact new_offers_nothing ho

end Upgraded

/-- What is found at the start goes by the recommended version. So it is what it stands for exactly
if the infrastructure, where it is served at all, is served in that version. In a plain group, that
has to be the version in which it is read. -/
theorem probe_agrees_iff (answer : Request → Answer) :
    ((∃ b, probe answer = .ok b) ↔ ∃ gs lists, Surveyed answer gs lists) ∧
      ∀ gs lists, Surveyed answer gs lists →
        (∃ b, probe answer = .ok b ∧ (b = true ↔ Recommended gs lists)) ∧
        (Warned answer ↔ ¬ Recommended gs lists) ∧
        (Recommended gs lists → Served gs lists) ∧
        (Agrees answer gs lists ↔ (Served gs lists → Recommended gs lists)) ∧
        ∀ g, Plain gs lists g →
          (Agrees answer gs lists ↔
            (Served gs lists → g.choice? = some Infrastructure.version)) := by
  refine ⟨probe_ok_iff, fun gs lists h => ?_⟩
  refine ⟨probe_eq h, warned_iff h, Recommended.served, agrees_iff h, fun g hg => ?_⟩
  rw [agrees_iff h]
  exact forall_congr' hg.recommended_iff

theorem old_version_found :
    Surveyed (upgraded oldVersion) [upgradedGroup oldVersion] upgradedLists ∧
      Served [upgradedGroup oldVersion] upgradedLists ∧
      probe (upgraded oldVersion) = .ok true ∧ ¬ Warned (upgraded oldVersion) ∧
      Agrees (upgraded oldVersion) [upgradedGroup oldVersion] upgradedLists := by
  have hv := upgraded_surveyed (.inl rfl)
  have hs := upgraded_serves oldVersion
  obtain ⟨⟨b, hp, hb⟩, hw, -, ha, -⟩ := (probe_agrees_iff (upgraded oldVersion)).2 _ _ hv
  have hr : Recommended [upgradedGroup oldVersion] upgradedLists :=
    ⟨upgradedGroup oldVersion, oldVersion, rfl, rfl, "infrastructures", none, by decide, by decide,
      by decide⟩
  obtain rfl : b = true := hb.mpr hr
  exact ⟨hv, hs, hp, fun hc => hw.mp hc hr, ha.mpr fun _ => hr⟩

/-- The new version is preferred. The infrastructure is said to be missing, while its address can be
read. -/
theorem new_version_hides :
    Surveyed (upgraded newVersion) [upgradedGroup newVersion] upgradedLists ∧
      Served [upgradedGroup newVersion] upgradedLists ∧
      probe (upgraded newVersion) = .ok false ∧ Warned (upgraded newVersion) ∧
      result (upgraded newVersion) serverAddress = .ok "https://api.prod:6443" ∧
      ¬ Agrees (upgraded newVersion) [upgradedGroup newVersion] upgradedLists := by
  have hv := upgraded_surveyed (.inr rfl)
  have hs := upgraded_serves newVersion
  obtain ⟨b, hp, hb⟩ := probe_eq hv
  obtain rfl : b = false := Bool.eq_false_iff.mpr fun hc => new_hides (hb.mp hc)
  exact ⟨hv, hs, hp, (warned_iff hv).mpr new_hides, by decide +kernel,
    fun ha => new_hides ((agrees_iff hv).mp ha hs)⟩

end Discovery

end TokenCourier
