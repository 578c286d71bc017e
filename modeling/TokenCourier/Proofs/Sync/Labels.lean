import Mathlib.Data.List.DropRight
import TokenCourier.Proofs.Text.Parts
import TokenCourier.Sync.ClusterSecret

namespace TokenCourier

structure BothEnds (p : Char → Bool) (cs : List Char) : Prop where
  first : ∀ c ∈ cs.head?, p c
  last : ∀ c ∈ cs.getLast?, p c

def labelChar (c : Char) : Bool := Label.plain c || c = '.'

/-- A label value as API servers take it. It may be empty. -/
structure LabelValue (s : String) : Prop where
  short : s.length ≤ 63
  chars : ∀ c ∈ s.toList, labelChar c
  bothEnds : BothEnds Label.alnum s.toList

def dnsAlnum (c : Char) : Bool := c.isLower || c.isDigit

structure DnsLabel (cs : List Char) : Prop where
  nonempty : cs ≠ []
  chars : ∀ c ∈ cs, dnsAlnum c ∨ c = '-'
  bothEnds : BothEnds dnsAlnum cs

structure Subdomain (s : String) : Prop where
  short : s.length ≤ 253
  labels : ∀ l ∈ CharSet.parts (· = '.') s.toList, DnsLabel l

/-- The secret of the cluster has a name and a namespace that API servers take. -/
structure ObjectKey.Legal (cluster : ObjectKey) : Prop where
  name : Subdomain cluster.clusterSecret.name
  ns : DnsLabel cluster.ns.toList
  short : cluster.ns.length ≤ 63

section Decidable

instance (p : Char → Bool) (cs : List Char) : Decidable (BothEnds p cs) :=
  decidable_of_iff (cs.head?.all p ∧ cs.getLast?.all p)
    ⟨fun h => ⟨(Option.all_eq_true p _).mp h.1, (Option.all_eq_true p _).mp h.2⟩,
      fun h => ⟨(Option.all_eq_true p _).mpr h.first, (Option.all_eq_true p _).mpr h.last⟩⟩

instance (s : String) : Decidable (LabelValue s) :=
  decidable_of_iff (s.length ≤ 63 ∧ s.toList.all labelChar ∧ BothEnds Label.alnum s.toList)
    ⟨fun h => ⟨h.1, by simpa using h.2.1, h.2.2⟩,
      fun h => ⟨h.short, by simpa using h.chars, h.bothEnds⟩⟩

instance (cs : List Char) : Decidable (DnsLabel cs) :=
  decidable_of_iff (cs ≠ [] ∧ cs.all (fun c => dnsAlnum c || c = '-') ∧ BothEnds dnsAlnum cs)
    ⟨fun h => ⟨h.1, by simpa using h.2.1, h.2.2⟩,
      fun h => ⟨h.nonempty, by simpa using h.chars, h.bothEnds⟩⟩

instance (s : String) : Decidable (Subdomain s) :=
  decidable_of_iff
    (s.length ≤ 253 ∧ (CharSet.parts (· = '.') s.toList).all fun l => decide (DnsLabel l))
    ⟨fun h => ⟨h.1, by simpa using h.2⟩, fun h => ⟨h.short, by simpa using h.labels⟩⟩

instance (cluster : ObjectKey) : Decidable cluster.Legal :=
  decidable_of_iff
    (Subdomain cluster.clusterSecret.name ∧ DnsLabel cluster.ns.toList ∧ cluster.ns.length ≤ 63)
    ⟨fun h => ⟨h.1, h.2.1, h.2.2⟩, fun h => ⟨h.name, h.ns, h.short⟩⟩

end Decidable

namespace Label

theorem trim_sublist (cs : List Char) : (trim cs).Sublist cs :=
  (List.rdropWhile_prefix _ _).sublist.trans (List.dropWhile_sublist _)

theorem trimLeft_first (cs : List Char) : ∀ c ∈ (trimLeft cs).head?, alnum c := by
  intro c hc
  have h := List.head?_dropWhile_not (!alnum ·) cs
  rw [trimLeft, Option.mem_def] at hc
  rw [hc] at h
  simpa using h

theorem trim_bothEnds (cs : List Char) : BothEnds alnum (trim cs) where
  first c hc := by
    obtain ⟨rest, hr⟩ : trim cs <+: trimLeft cs := List.rdropWhile_prefix _ _
    apply trimLeft_first cs
    rw [← hr, List.head?_append, Option.mem_def.mp hc]
    rfl
  last c hc := by
    rw [trim, List.getLast?_reverse] at hc
    exact trimLeft_first _ c hc

theorem labelValue_sanitize (s : String) : LabelValue (sanitize s) := by
  have hs := trim_sublist ((s.toList.take maxLength).map fun c => if plain c then c else '-')
  rw [sanitize, sanitizeChars]
  refine ⟨?_, ?_, ?_⟩
  · rw [String.length_ofList]
    apply hs.length_le.trans
    rw [List.length_map]
    exact List.length_take_le _ _
  · rw [String.toList_ofList]
    intro c hc
    obtain ⟨d, -, rfl⟩ := List.mem_map.mp (hs.subset hc)
    by_cases hd : plain d = true
    · rw [if_pos hd, labelChar, hd]
      rfl
    · rw [if_neg hd]
      decide
  · rw [String.toList_ofList]
    exact trim_bothEnds _

theorem ofHost?_some {host value : String} (h : ofHost? host = some value) :
    value = sanitize host := by
  rw [ofHost?] at h
  split at h
  · cases h
  · exact (Option.some.inj h).symm

end Label

theorem alnum_of_dnsAlnum {c : Char} (hc : dnsAlnum c) : Label.alnum c := by
  have ha : Label.alnum c = (c.isUpper || c.isLower || c.isDigit) := rfl
  simp only [dnsAlnum, Bool.or_eq_true] at hc
  rw [ha]
  obtain hc | hc := hc <;> simp [hc]

namespace Subdomain

variable {s : String}

theorem chars (h : Subdomain s) : ∀ c ∈ s.toList, c = '.' ∨ dnsAlnum c ∨ c = '-' := by
  intro c hc
  by_cases hd : c = '.'
  · exact .inl hd
  · have hf : c ∈ (CharSet.parts (· = '.') s.toList).flatten := by
      rw [CharSet.flatten_parts]
      exact List.mem_filter.mpr ⟨hc, by simpa using hd⟩
    obtain ⟨l, hl, hcl⟩ := List.mem_flatten.mp hf
    exact .inr ((h.labels l hl).chars c hcl)

theorem first_of_parts {c : Char} {cs : List Char}
    (h : ∀ l ∈ CharSet.parts (· = '.') (c :: cs), DnsLabel l) : dnsAlnum c := by
  cases hc : decide (c = '.') with
  | true =>
    rw [CharSet.parts_separator hc] at h
    exact absurd rfl (h [] List.mem_cons_self).nonempty
  | false =>
    obtain ⟨w, ws, -, hp⟩ := CharSet.parts_cons (p := (· = '.')) hc cs
    rw [hp] at h
    exact (h _ List.mem_cons_self).bothEnds.first c rfl

theorem first (h : Subdomain s) {c : Char} {cs : List Char} (hs : s.toList = c :: cs) :
    dnsAlnum c :=
  first_of_parts (hs ▸ h.labels)

theorem after_dot (h : Subdomain s) {c : Char} {xs ys : List Char}
    (hs : s.toList = xs ++ '.' :: c :: ys) : dnsAlnum c := by
  have hp : CharSet.parts (· = '.') s.toList
      = CharSet.parts (· = '.') xs ++ CharSet.parts (· = '.') (c :: ys) := by
    rw [hs]
    exact CharSet.parts_append rfl _ _
  exact first_of_parts fun l hl => h.labels l (hp ▸ List.mem_append_right _ hl)

end Subdomain

namespace ObjectKey.Legal

variable {cluster : ObjectKey}

theorem secret_text (cluster : ObjectKey) : cluster.clusterSecret.name.toList
    = cluster.name.toList ++ '-' :: "cluster-secret".toList := by
  have hs : "-cluster-secret".toList = '-' :: "cluster-secret".toList := by decide
  calc cluster.clusterSecret.name.toList
    _ = cluster.name.toList ++ "-cluster-secret".toList := String.toList_append
    _ = cluster.name.toList ++ '-' :: "cluster-secret".toList := congrArg _ hs

theorem name_chars (h : cluster.Legal) :
    ∀ c ∈ cluster.name.toList, c = '.' ∨ dnsAlnum c ∨ c = '-' := by
  intro c hc
  apply h.name.chars c
  rw [secret_text]
  exact List.mem_append_left _ hc

theorem name_first (h : cluster.Legal) : ∀ c ∈ cluster.name.toList.head?, dnsAlnum c := by
  intro c hc
  obtain ⟨cs, hn⟩ := List.head?_eq_some_iff.mp hc
  apply h.name.first
  rw [secret_text, hn, List.cons_append]

theorem name_last (h : cluster.Legal) : '.' ∉ cluster.name.toList.getLast? := by
  intro hd
  obtain ⟨cs, hn⟩ := List.getLast?_eq_some_iff.mp hd
  have ha : dnsAlnum '-' := by
    apply h.name.after_dot
    rw [secret_text, hn, List.append_assoc, List.singleton_append]
  exact absurd ha (by decide)

theorem labelValue_name (h : cluster.Legal) : LabelValue cluster.name ↔
    cluster.name.length ≤ 63 ∧ '-' ∉ cluster.name.toList.getLast? := by
  refine ⟨fun hv => ⟨hv.short, fun hl => absurd (hv.bothEnds.last _ hl) (by decide)⟩, ?_⟩
  rintro ⟨hs, hl⟩
  refine ⟨hs, fun c hc => ?_, fun c hc => alnum_of_dnsAlnum (h.name_first c hc), fun c hc => ?_⟩
  · obtain rfl | hc | rfl := h.name_chars c hc
    · decide
    · simp [labelChar, Label.plain, alnum_of_dnsAlnum hc]
    · decide
  · obtain rfl | ha | rfl := h.name_chars c (List.mem_of_mem_getLast? hc)
    · exact absurd hc h.name_last
    · exact alnum_of_dnsAlnum ha
    · exact absurd hc hl

end ObjectKey.Legal

namespace ClusterSecret

def clusterName : String := "apps.open-cluster-management.io/cluster-name"

theorem serverLabel_host (server : String) :
    (serverLabel server).2 = (Url.host server).toOption.bind Label.ofHost? := by
  rw [serverLabel]
  cases Url.host server <;> simp [Except.toOption]

theorem serverLabel_valid (server : String) : ∀ v ∈ (serverLabel server).2, LabelValue v := by
  intro v hv
  rw [serverLabel_host] at hv
  obtain ⟨host, -, hh⟩ := Option.bind_eq_some_iff.mp hv
  rw [Label.ofHost?_some hh]
  exact Label.labelValue_sanitize host

theorem forall_labels {cluster : ObjectKey} {host : Option String} {P : String × String → Prop} :
    (∀ l ∈ labels cluster host, P l) ↔ P (clusterName, cluster.name) ∧
      (∀ v ∈ host, P ("apps.open-cluster-management.io/cluster-server", v)) ∧
      P ("apps.open-cluster-management.io/secret-type", "acm-cluster") ∧
      P ("argocd.argoproj.io/secret-type", "cluster") := by
  cases host <;> simp [labels, clusterName]

/-- For a cluster whose secret has a legal name, all labels are label values, but for the name of
the cluster if it is too long or ends in a hyphen. -/
theorem labels_valid_iff {cluster : ObjectKey} (h : cluster.Legal) (token server : String) :
    let labels := (build cluster token server).2.metadata.labels.getD []
    (∀ l ∈ labels, l.1 ≠ clusterName → LabelValue l.2) ∧
      ((∀ l ∈ labels, LabelValue l.2) ↔
        cluster.name.length ≤ 63 ∧ '-' ∉ cluster.name.toList.getLast?) := by
  change (∀ l ∈ labels cluster (serverLabel server).2, _) ∧
    ((∀ l ∈ labels cluster (serverLabel server).2, _) ↔ _)
  have hs := serverLabel_valid server
  have ha : LabelValue "acm-cluster" := by decide
  have hc : LabelValue "cluster" := by decide
  -- only the label with the name can fail
  rw [forall_labels, forall_labels, ← h.labelValue_name]
  exact ⟨⟨fun hn => absurd rfl hn, fun v hv _ => hs v hv, fun _ => ha, fun _ => hc⟩,
    fun hv => hv.1, fun hv => ⟨hv, hs, ha, hc⟩⟩

theorem dotted_name_labelled :
    let cluster : ObjectKey := ⟨"prod-1.eu.example", "fleet"⟩
    cluster.Legal ∧ ∀ l ∈ (build cluster "s3cret" "https://[::1]").2.metadata.labels.getD [],
      LabelValue l.2 := by
  have h : (⟨"prod-1.eu.example", "fleet"⟩ : ObjectKey).Legal := by decide
  exact ⟨h, (labels_valid_iff h "s3cret" "https://[::1]").2.mpr (by decide)⟩

/-- The name is legal, but too long by one. -/
theorem long_name_mislabelled :
    let cluster : ObjectKey := ⟨String.ofList (List.replicate 64 'a'), "fleet"⟩
    cluster.Legal ∧ ¬ ∀ l ∈
        (build cluster "s3cret" "https://api.prod.example.com:6443").2.metadata.labels.getD [],
      LabelValue l.2 := by
  intro cluster
  have hb : ∀ server, ¬ ∀ l ∈ (build cluster "s3cret" server).2.metadata.labels.getD [],
      LabelValue l.2 := by
    intro server
    change ¬ ∀ l ∈ labels cluster (serverLabel server).2, _
    rw [forall_labels]
    exact fun hl => absurd hl.1.short (by decide)
  exact ⟨by decide, hb _⟩

end ClusterSecret

end TokenCourier
