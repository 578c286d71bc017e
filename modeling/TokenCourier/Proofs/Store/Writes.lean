import TokenCourier.Proofs.Store.Answers

namespace TokenCourier

namespace Json

variable {ms : List (String × Json)} {name outer inner : String} {x : Json}

theorem set_there (h : ms.any (·.1 == name) = true) :
    (obj ms).set name x = obj (ms.map fun m => if m.1 = name then (name, x) else m) := by
  simp [set, h]

theorem set_new (h : ms.any (·.1 == name) = false) :
    (obj ms).set name x = obj (ms ++ [(name, x)]) := by
  simp [set, h]

end Json

namespace Secret

def versioned (version : String) (s : Secret) : Secret :=
  { s with metadata := { s.metadata with resourceVersion := some version } }

theorem any_member {k : String} (v : Option Json) (hk : k ≠ "resourceVersion") :
    (member? k v).any (·.1 == "resourceVersion") = false := by
  cases v <;> simp [member?, hk]

theorem map_member {k : String} (v : Option Json) (x : Json) (hk : k ≠ "resourceVersion") :
    (member? k v).map (fun m => if m.1 = "resourceVersion" then ("resourceVersion", x) else m)
      = member? k v := by
  cases v <;> simp [member?, hk]

theorem set_version (m : ObjectMeta) (version : String) :
    (metadataJson m).set "resourceVersion" (.str version)
      = metadataJson { m with resourceVersion := some version } := by
  obtain ⟨name, gen, ns, old, labels, notes⟩ := m
  unfold metadataJson
  cases old with
  | none =>
    rw [Json.set_new (by simp [any_member])]
    simp
  | some old =>
    rw [Json.set_there (by simp)]
    simp [map_member]

theorem stamped_toJson (s : Secret) (version : String) :
    s.toJson.stamped version = (s.versioned version).toJson := by
  have hm : s.toJson.get? "metadata" = some (metadataJson s.metadata) := by
    cases hd : s.stringData <;> simp [toJson, Json.get?, member?, hd]
  rw [Json.stamped, hm, Option.getD_some, set_version]
  unfold toJson
  rw [Json.set_there (by simp)]
  cases hd : s.stringData <;> simp [member?, versioned, hd]

theorem text_of_last {ms : List (String × Json)} {n : String} {o : Option String}
    (h : Json.last? n Json.string? ms = some o) : ((Json.obj ms).get? n).bind Json.string? = o := by
  obtain ⟨hg | hg, rfl⟩ | ⟨v, x, hg, hv, rfl⟩ := Json.last?_get h
  · rw [hg]
    rfl
  · rw [hg]
    rfl
  · rw [hg]
    exact hv

theorem fields_of_meta {v : Json} {m : ObjectMeta} (hv : ObjectMeta.decode? v = some m) :
    (v.get? "name").bind Json.string? = m.name ∧
      (v.get? "resourceVersion").bind Json.string? = m.resourceVersion := by
  cases v with
  | obj ms =>
    simp only [ObjectMeta.decode?, Json.members?, Option.bind_eq_bind, Option.bind_some,
      Option.bind_eq_some_iff, Option.some.injEq, guard] at hv
    obtain ⟨_, -, _, -, _, -, _, -, _, -, _, -, name, hn, gen, -, ns, -, version, hr, labels, -,
      notes, -, rfl⟩ := hv
    exact ⟨text_of_last hn, text_of_last hr⟩
  | _ => cases hv

theorem fields_of_decode {v : Json} {s : Secret} (hv : decode? v = some s) :
    v.name? = s.metadata.name ∧ v.version? = s.metadata.resourceVersion := by
  cases v with
  | obj ms =>
    simp only [decode?, Json.members?, Option.bind_eq_bind, Option.bind_some,
      Option.bind_eq_some_iff, Option.some.injEq, guard] at hv
    obtain ⟨_, -, _, -, _, -, o, hm, data, -, rfl⟩ := hv
    unfold Json.name? Json.version? Json.field?
    obtain ⟨hg | hg, rfl⟩ | ⟨w, m, hg, hw, rfl⟩ := Json.last?_get hm
    · rw [hg]
      exact ⟨rfl, rfl⟩
    · rw [hg]
      exact ⟨rfl, rfl⟩
    · rw [hg]
      exact fields_of_meta hw
  | _ => cases hv

end Secret

namespace Store

variable {st : Store} {ns name : String} {s : Secret}

variable {path query body : String} {a : Address}

theorem serve_get (hp : Address.ofPath? path = some a) :
    st.serve ⟨.get, path, query, body⟩ = (st.read a, st) := by
  simp [serve, hp]

theorem serve_put (hp : Address.ofPath? path = some a) :
    st.serve ⟨.put, path, query, body⟩ = st.replace a body := by
  simp [serve, hp]

theorem serve_delete (hp : Address.ofPath? path = some a) :
    st.serve ⟨.delete, path, query, body⟩ = st.delete a := by
  simp [serve, hp]

theorem serve_post {c : Collection} (hp : Collection.ofPath? path = some c) :
    st.serve ⟨.post, path, query, body⟩ = st.create c body := by
  simp [serve, hp]

/-- A secret as the store keeps it when it is written now. -/
def kept (st : Store) (s : Secret) : Json := (s.versioned (toString st.revision)).toJson

theorem create_fresh (hn : s.metadata.name = some name)
    (ho : st.objects ⟨.secrets ns, name⟩ = none) :
    st.create (.secrets ns) s.toJson.compact =
      (reply 201 (st.kept s), st.put ⟨.secrets ns, name⟩ (st.kept s).compact) := by
  have hf := (Secret.fields_of_decode (Secret.decode_toJson s)).1
  rw [create, Json.read?_compact _ (Secret.plain_toJson s), Option.bind_some, hf, hn,
    Option.map_some]
  simp only [ho, write, Secret.stamped_toJson]
  rfl

theorem replace_current {text : String} {old : Secret} (hn : s.metadata.name = some name)
    (ho : st.objects ⟨.secrets ns, name⟩ = some text)
    (ht : (Json.read? text).bind Secret.decode? = some old)
    (hv : s.metadata.resourceVersion = old.metadata.resourceVersion) :
    st.replace ⟨.secrets ns, name⟩ s.toJson.compact =
      (reply 200 (st.kept s), st.put ⟨.secrets ns, name⟩ (st.kept s).compact) := by
  obtain ⟨hf, hr⟩ := Secret.fields_of_decode (Secret.decode_toJson s)
  obtain ⟨v, hj, hd⟩ := Option.bind_eq_some_iff.mp ht
  have ho' := (Secret.fields_of_decode hd).2
  have hc : ¬ (s.toJson.version? ≠ none ∧
      s.toJson.version? ≠ (Json.read? text).bind Json.version?) := by
    rw [hj, Option.bind_some, ho', hr, hv]
    exact fun h => h.2 rfl
  rw [replace, Json.read?_compact _ (Secret.plain_toJson s), ho]
  simp only [hf, hn, ne_eq, not_true_eq_false, if_false, write, Secret.stamped_toJson]
  rw [if_neg hc]
  rfl

theorem reply_secret {status : Nat} (hs : ¬ (400 ≤ status ∧ status < 600)) (s : Secret) :
    (reply status s.toJson).object Secret.decode? = .ok s := by
  have ht := Answer.text_ok hs s.toJson.compact
  have hr := Secret.readback s
  simp only [reply, Answer.object, ht]
  simp [Except.bind, hr]

theorem reply_success : (reply 200 success).deleted = .ok () := by
  have hp : success.plain = true := by decide
  have hd : Deletion.result? success = some () := by decide
  have hs : ¬ (400 ≤ 200 ∧ 200 < 600) := by decide
  have ht := Answer.text_ok hs success.compact
  simp only [reply, Answer.deleted, Answer.object, ht]
  simp [Except.bind, Json.read?_compact _ hp, hd]

end Store

end TokenCourier
