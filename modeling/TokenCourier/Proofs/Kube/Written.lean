import TokenCourier.Kube.Secret
import TokenCourier.Proofs.Json.Readback

namespace TokenCourier

namespace Json

variable {α : Type} {name other : String} {f : Json → Option α}

def seeing (name : String) (f : Json → Option α) (seen : Option α) (m : String × Json) :
    Option (Option α) :=
  if m.1 = name then
    match m.2 with
    | .null => some none
    | v => (f v).map some
  else some seen

theorem last?_eq (ms : List (String × Json)) : last? name f ms = ms.foldlM (seeing name f) none :=
  rfl

/-- The last member of a name decides, if no other is of a wrong type. -/
theorem last?_get {ms : List (String × Json)} {o : Option α} (h : last? name f ms = some o) :
    ((obj ms).get? name = none ∨ (obj ms).get? name = some .null) ∧ o = none ∨
      ∃ v x, (obj ms).get? name = some v ∧ f v = some x ∧ o = some x := by
  induction ms using List.reverseRecOn generalizing o with
  | nil =>
    cases h
    exact .inl ⟨.inl rfl, rfl⟩
  | append_singleton ms m ih =>
    rw [last?_eq, List.foldlM_append] at h
    obtain ⟨seen, hs, hm⟩ := Option.bind_eq_some_iff.mp h
    have hm : seeing name f seen m = some o := by simpa using hm
    obtain ⟨n, v⟩ := m
    by_cases hn : n = name
    · subst hn
      have hg : (obj (ms ++ [(n, v)])).get? n = some v := by simp [get?]
      rw [hg]
      cases v with
      | null => exact .inl ⟨.inr rfl, by simpa [seeing] using hm.symm⟩
      | bool | int | real | str | arr | obj | unreadable =>
        simp only [seeing, if_true, Option.map_eq_some_iff] at hm
        obtain ⟨x, hx, rfl⟩ := hm
        exact .inr ⟨_, x, rfl, hx, rfl⟩
    · simp only [seeing, hn, if_false, Option.some.injEq] at hm
      have hg : (obj (ms ++ [(n, v)])).get? name = (obj ms).get? name := by simp [get?, hn]
      rw [hg, ← hm]
      exact ih hs

theorem optional_append (xs ys : List (String × Json)) :
    optional name f (xs ++ ys) = (optional name f xs && optional name f ys) :=
  List.all_append

end Json

namespace Secret

variable {k n : String}

@[simp] theorem member?_none (n : String) : member? n none = [] := rfl

@[simp] theorem member?_some (n : String) (v : Json) : member? n (some v) = [(n, v)] := rfl

theorem optional_member {α : Type} (f : Json → Option α) (v : Option Json) (hk : k ≠ n) :
    Json.optional n f (member? k v) = true := by
  cases v with
  | none => rfl
  | some v => simp [member?, Json.optional, Json.every, hk]

theorem foldlM_member {α : Type} (f : Json → Option α) (seen : Option α) (v : Option Json)
    (hk : k ≠ n) : (member? k v).foldlM (Json.seeing n f) seen = some seen := by
  cases v with
  | none => rfl
  | some v => simp [member?, Json.seeing, hk]

theorem foldlM_text (seen o : Option String) (ho : o = none → seen = none) :
    (member? n (o.map .str)).foldlM (Json.seeing n Json.string?) seen = some o := by
  cases o with
  | none => rw [ho rfl]; rfl
  | some s => simp [member?, Json.seeing, Json.string?]

theorem strings?_stringsJson (ms : List (String × String)) :
    strings? (stringsJson ms) = some ms := by
  induction ms with
  | nil => rfl
  | cons m ms ih =>
    simp only [strings?, Json.map?, stringsJson, Json.members?, List.map_cons, Option.bind_some,
      List.mapM_cons, Json.string?, Option.map_some] at ih ⊢
    rw [ih]
    rfl

theorem foldlM_strings (seen o : Option (List (String × String))) (ho : o = none → seen = none) :
    (member? n (o.map stringsJson)).foldlM (Json.seeing n strings?) seen = some o := by
  cases o with
  | none => rw [ho rfl]; rfl
  | some ms =>
    have hs := strings?_stringsJson ms
    simp only [stringsJson] at hs
    simp [member?, Json.seeing, stringsJson, hs]

theorem meta_readback (m : ObjectMeta) : ObjectMeta.decode? (metadataJson m) = some m := by
  obtain ⟨name, gen, ns, ver, labels, notes⟩ := m
  simp only [ObjectMeta.decode?, metadataJson, Json.members?]
  simp [Json.optional_append, optional_member, Json.last?_eq, foldlM_member, foldlM_text,
    foldlM_strings, guard]

theorem seeing_meta (seen : Option ObjectMeta) (m : ObjectMeta) :
    Json.seeing "metadata" ObjectMeta.decode? seen ("metadata", metadataJson m)
      = some (some m) := by
  simp only [Json.seeing, if_true]
  change (ObjectMeta.decode? (metadataJson m)).map some = some (some m)
  rw [meta_readback]
  rfl

theorem decode_members {ms : List (String × Json)} {m : ObjectMeta}
    {data : Option (List (String × String))} (ht : ofType "Secret" ms = true)
    (hd : Json.optional "data" (Json.map? bytes?) ms = true)
    (hi : Json.optional "immutable" Json.bool? ms = true)
    (hy : Json.optional "type" Json.string? ms = true)
    (hm : Json.last? "metadata" ObjectMeta.decode? ms = some (some m))
    (hs : Json.last? "stringData" strings? ms = some data) :
    decode? (.obj ms) = some ⟨m, data⟩ := by
  simp [decode?, Json.members?, guard, ht, hd, hi, hy, hm, hs]

theorem decode_toJson (s : Secret) : decode? s.toJson = some s := by
  obtain ⟨m, data⟩ := s
  refine decode_members ?_ ?_ ?_ ?_ ?_ ?_
  · cases data <;> simp [ofType, Json.every, member?, Json.string?]
  · cases data <;> simp [Json.optional, Json.every, member?]
  · cases data <;> simp [Json.optional, Json.every, member?]
  · cases data <;> simp [Json.optional, Json.every, member?]
  · rw [Json.last?_eq, List.foldlM_append]
    simp only [List.foldlM_cons, List.foldlM_nil, seeing_meta]
    exact foldlM_member _ _ _ (by decide)
  · rw [Json.last?_eq, List.foldlM_append]
    exact foldlM_strings none data fun _ => rfl

theorem plainMembers_append (xs ys : List (String × Json)) :
    Json.plainMembers (xs ++ ys) = (Json.plainMembers xs && Json.plainMembers ys) := by
  induction xs with
  | nil => rfl
  | cons x xs ih => simp [Json.plainMembers, ih, Bool.and_assoc]

theorem plain_stringsJson (ms : List (String × String)) : (stringsJson ms).plain = true := by
  induction ms with
  | nil => rfl
  | cons m ms ih => simpa [stringsJson, Json.plain, Json.plainMembers] using ih

theorem plain_member (v : Option Json) (hv : ∀ x ∈ v, x.plain = true) :
    Json.plainMembers (member? n v) = true := by
  cases v with
  | none => rfl
  | some v => simpa [member?, Json.plainMembers] using hv v rfl

theorem plain_toJson (s : Secret) : s.toJson.plain = true := by
  have ht : ∀ o : Option String, ∀ x ∈ o.map Json.str, x.plain = true := by
    simp [Json.plain]
  have hs : ∀ o : Option (List (String × String)), ∀ x ∈ o.map stringsJson, x.plain = true := by
    simp [plain_stringsJson]
  simp [toJson, metadataJson, Json.plain, Json.plainMembers, plainMembers_append,
    plain_member _ (ht _), plain_member _ (hs _)]

/-- A secret is read back from its text. -/
theorem readback (s : Secret) : (Json.read? s.toJson.compact).bind decode? = some s := by
  rw [Json.read?_compact _ (plain_toJson s)]
  exact decode_toJson s

end Secret

end TokenCourier
