import TokenCourier.Api.Deletion
import TokenCourier.Proofs.Api.Named
import TokenCourier.Proofs.Kube.Written
import TokenCourier.Proofs.Store.Basic

namespace TokenCourier

theorem Utf8.decode_toUTF8 (s : String) : decode s.toUTF8 = .ok s := by
  have hv : s.toUTF8.IsValidUTF8 := s.isValidUTF8
  have hs : String.fromUTF8? s.toUTF8 = some s := by
    rw [String.fromUTF8?, dif_pos hv]
    rfl
  rw [decode, hs]

section Paths

def OneSegment (s : String) : Prop := '/' ∉ s.toList

instance (s : String) : Decidable (OneSegment s) := inferInstanceAs (Decidable ('/' ∉ s.toList))

theorem ValidName.oneSegment {s : String} (hs : ValidName s) : OneSegment s := fun hm =>
  absurd (hs.chars '/' hm) (by decide)

variable {s ns name : String}

theorem segments_last (hs : OneSegment s) : segments s = [s] := by
  rw [segments, List.splitOn_eq_singleton hs]
  simp

theorem segments_cons (hs : OneSegment s) (rest : String) :
    segments (s ++ "/" ++ rest) = s :: segments rest := by
  have hl : (s ++ "/" ++ rest).toList = s.toList ++ '/' :: rest.toList := by simp
  rw [segments, hl, List.splitOn_append_cons_self_of_not_mem hs]
  simp [segments]

theorem segments_namespaced (hn : OneSegment ns) (rest : String) :
    segments ("/api/v1/namespaces/" ++ ns ++ "/" ++ rest)
      = "" :: "api" :: "v1" :: "namespaces" :: ns :: segments rest := by
  have hl : "/api/v1/namespaces/"
      = "" ++ "/" ++ "api" ++ "/" ++ "v1" ++ "/" ++ "namespaces" ++ "/" := by
    decide
  have hp : "/api/v1/namespaces/" ++ ns ++ "/" ++ rest = "" ++ "/" ++
      ("api" ++ "/" ++ ("v1" ++ "/" ++ ("namespaces" ++ "/" ++ (ns ++ "/" ++ rest)))) := by
    rw [hl]
    simp only [String.append_assoc]
  rw [hp, segments_cons (by decide), segments_cons (by decide),
    segments_cons (by decide), segments_cons (by decide), segments_cons hn]

variable {plural : String}

theorem segments_collection (hn : OneSegment ns) (hp : OneSegment plural) :
    segments (collection ns plural) = ["", "api", "v1", "namespaces", ns, plural] := by
  have hs := segments_namespaced hn plural
  rwa [segments_last hp] at hs

theorem segments_object (hn : OneSegment ns) (hp : OneSegment plural) (name : String) :
    segments (collection ns plural ++ "/" ++ name)
      = "" :: "api" :: "v1" :: "namespaces" :: ns :: plural :: segments name := by
  have hl : collection ns plural ++ "/" ++ name
      = "/api/v1/namespaces/" ++ ns ++ "/" ++ (plural ++ "/" ++ name) := by
    unfold collection
    simp only [String.append_assoc]
  rw [hl, segments_namespaced hn, segments_cons hp]

theorem segments_named (hn : OneSegment ns) (hp : OneSegment plural) (hs : OneSegment name) :
    segments (collection ns plural ++ "/" ++ name)
      = ["", "api", "v1", "namespaces", ns, plural, name] := by
  rw [segments_object hn hp, segments_last hs]

/-- The path of an object determines its namespace, its kind and its name. -/
theorem object_inj {ns' plural' name' : String} (hn : OneSegment ns) (hn' : OneSegment ns')
    (hp : OneSegment plural) (hp' : OneSegment plural')
    (h : collection ns plural ++ "/" ++ name = collection ns' plural' ++ "/" ++ name') :
    ns = ns' ∧ plural = plural' ∧ name = name' := by
  have hs := congrArg segments h
  rw [segments_object hn hp, segments_object hn' hp'] at hs
  simp only [List.cons.injEq, true_and] at hs
  obtain ⟨rfl, rfl, -⟩ := hs
  exact ⟨rfl, rfl, (String.append_right_inj _).mp h⟩

theorem ofSegments_secrets (ns : String) :
    Collection.ofSegments? ["", "api", "v1", "namespaces", ns, "secrets"] = some (.secrets ns) := by
  simp only [Collection.ofSegments?]

theorem ofSegments_serviceAccounts (ns : String) :
    Collection.ofSegments? ["", "api", "v1", "namespaces", ns, "serviceaccounts"]
      = some (.serviceAccounts ns) := by
  simp only [Collection.ofSegments?]

theorem ofPath_segments {path : String} {ss : List String} {c : Collection}
    (hp : (segments path).reverse = name :: ss) (hc : Collection.ofSegments? ss.reverse = some c) :
    Address.ofPath? path = some ⟨c, name⟩ := by
  simp [Address.ofPath?, hp, hc]

theorem ofPath_secrets (hn : OneSegment ns) :
    Collection.ofPath? (secretsOf ns) = some (.secrets ns) :=
  (congrArg Collection.ofSegments? (segments_collection hn (by decide))).trans
    (ofSegments_secrets ns)

theorem ofPath_secret (hn : OneSegment ns) (hs : OneSegment name) :
    Address.ofPath? (secretsOf ns ++ "/" ++ name) = some ⟨.secrets ns, name⟩ :=
  ofPath_segments (congrArg List.reverse (segments_named hn (by decide) hs))
    (ofSegments_secrets ns)

theorem ofPath_serviceAccount (hn : OneSegment ns) (hs : OneSegment name) :
    Address.ofPath? (serviceAccountsOf ns ++ "/" ++ name) = some ⟨.serviceAccounts ns, name⟩ :=
  ofPath_segments (congrArg List.reverse (segments_named hn (by decide) hs))
    (ofSegments_serviceAccounts ns)

theorem ofPath_infrastructure :
    Address.ofPath? (Infrastructure.collectionPath none ++ "/" ++ "cluster")
      = some ⟨.infrastructures, "cluster"⟩ := by decide

end Paths

namespace Answer

theorem text_ok {status : Nat} (hs : ¬ (400 ≤ status ∧ status < 600)) (t : String) :
    Answer.text (.ok ⟨status, t.toUTF8⟩) = .ok t := by
  have he : Response.isError ⟨status, t.toUTF8⟩ = false := by
    simpa [Response.isError] using hs
  simp only [Answer.text, Response.text, Utf8.decode_toUTF8, he, Bool.false_eq_true, if_false]

theorem text_refusal {code : Nat} (hc : 400 ≤ code ∧ code < 600) (reason message : String) :
    (Store.refusal code reason message).text
      = .error (.api ⟨"Failure", message, reason, code⟩) := by
  have he : Response.isError ⟨code, (Store.failure code reason message).compact.toUTF8⟩ = true := by
    simpa [Response.isError] using hc
  have hp : (Store.failure code reason message).plain = true := by
    simp only [Store.failure, Json.plain, Json.plainMembers, Bool.true_and, Bool.and_true,
      decide_eq_true_eq]
    omega
  have hd : ApiFailure.decode? (Store.failure code reason message)
      = some ⟨"Failure", message, reason, code⟩ := by
    have hr : 0 ≤ (code : Int) ∧ (code : Int) ≤ 65535 := by omega
    simp [ApiFailure.decode?, Store.failure, Json.slots?, Json.required?, Json.orElse?,
      Json.string?, Json.uint16?, Json.within?, hr]
  simp only [Store.refusal, Store.reply, Answer.text, Response.text, Utf8.decode_toUTF8, he,
    if_true, ApiFailure.ofText, Json.read?_compact _ hp, Option.bind_some, hd]

end Answer

namespace Store

variable {α : Type} {st : Store} {a : Address} {f : Json → Option α}

def find (st : Store) (f : Json → Option α) (a : Address) : Option (Option α) :=
  (st.objects a).map fun text => (Json.read? text).bind f

theorem read_absent (ha : st.find f a = none) :
    (st.read a).object f
      = .error (.api ⟨"Failure", Quoted.quoted a.name ++ " not found", "NotFound", 404⟩) := by
  have ho : st.objects a = none := by simpa [find] using ha
  have hc : 400 ≤ 404 ∧ 404 < 600 := by decide
  have ht := Answer.text_refusal hc "NotFound" (Quoted.quoted a.name ++ " not found")
  simp only [read, ho, notFound, Answer.object, ht]
  rfl

theorem read_there {text : String} (ho : st.objects a = some text) :
    (st.read a).object f = match (Json.read? text).bind f with
      | some x => .ok x
      | none => .error .undecodable := by
  have hs : ¬ (400 ≤ 200 ∧ 200 < 600) := by decide
  have ht := Answer.text_ok hs text
  simp only [read, ho, Answer.object, ht]
  rfl

theorem read_unreadable (ha : st.find f a = some none) :
    (st.read a).object f = .error .undecodable := by
  obtain ⟨text, ho, ht⟩ := Option.map_eq_some_iff.mp ha
  rw [read_there ho, ht]

theorem read_present {x : α} (ha : st.find f a = some (some x)) : (st.read a).object f = .ok x := by
  obtain ⟨text, ho, ht⟩ := Option.map_eq_some_iff.mp ha
  rw [read_there ho, ht]

end Store

end TokenCourier
