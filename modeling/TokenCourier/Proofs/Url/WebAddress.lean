import TokenCourier.Proofs.Url.HostName

namespace TokenCourier

/-- The parts of an address. Only the host must be there. -/
structure WebAddress where
  user : Option String := none
  host : String
  port : Option String := none
  path : Option String := none
  query : Option String := none
  fragment : Option String := none

namespace WebAddress

def behind (mark : String) (part : Option String) : String := part.elim "" (mark ++ ·)

def authority (a : WebAddress) : String := a.user.elim "" (· ++ "@") ++ a.host ++ behind ":" a.port

def tail (a : WebAddress) : String :=
  behind "/" a.path ++ behind "?" a.query ++ behind "#" a.fragment

def text (a : WebAddress) : String := "https://" ++ a.authority ++ a.tail

def tailChar (c : Char) : Bool := c.isAlphanum || c = '/' || c = '-' || c = '.'

def MadeOf (p : Char → Bool) (part : Option String) : Prop := ∀ s ∈ part, ∀ c ∈ s.toList, p c

instance (p : Char → Bool) (part : Option String) : Decidable (MadeOf p part) :=
  decidable_of_iff (part.all fun s => s.toList.all p)
    (by simp only [MadeOf, Option.all_eq_true, List.all_eq_true, Option.mem_def])

/-- The user is of letters and digits. The port is a number in decimal, with zeros before it
perhaps. -/
structure Plain (a : WebAddress) : Prop where
  user : MadeOf Char.isAlphanum a.user
  host : HostName a.host
  digits : MadeOf Char.isDigit a.port
  port : ∀ p ∈ a.port, Nat.ofDigitChars 10 p.toList 0 ≤ 65535
  path : MadeOf tailChar a.path
  query : MadeOf tailChar a.query
  fragment : MadeOf tailChar a.fragment

instance (a : WebAddress) : Decidable a.Plain :=
  decidable_of_iff
    (MadeOf Char.isAlphanum a.user ∧ HostName a.host ∧ MadeOf Char.isDigit a.port ∧
      (a.port.all fun p => Nat.ofDigitChars 10 p.toList 0 ≤ 65535) ∧ MadeOf tailChar a.path ∧
      MadeOf tailChar a.query ∧ MadeOf tailChar a.fragment)
    (by
      simp only [Option.all_eq_true, decide_eq_true_eq]
      exact ⟨fun ⟨hu, hh, hd, hp, ht, hq, hf⟩ => ⟨hu, hh, hd, hp, ht, hq, hf⟩,
        fun ⟨hu, hh, hd, hp, ht, hq, hf⟩ => ⟨hu, hh, hd, hp, ht, hq, hf⟩⟩)

end WebAddress

theorem Address.number?_digits {cs : List Char} (h : ∀ c ∈ cs, c.isDigit) :
    number? 10 cs = some (Nat.ofDigitChars 10 cs 0) := by
  have hd : ∀ c : Char, c.isDigit → digitIn? 10 c = some (c.toNat - '0'.toNat) := by
    intro c hc
    have ha : c.isDigit → digitIn? 10 c = some (c.toNat - '0'.toNat) :=
      forall_ascii (P := fun c => c.isDigit → digitIn? 10 c = some (c.toNat - '0'.toNat))
        (by decide) (lt_of_isAlphanum (by simp [Char.isAlphanum, hc]))
    exact ha hc
  have hf : ∀ n, cs.foldlM (fun n c => (digitIn? 10 c).map (10 * n + ·)) n
      = some (Nat.ofDigitChars 10 cs n) := by
    induction cs with
    | nil => exact fun _ => rfl
    | cons c cs ih =>
      obtain ⟨hc, hcs⟩ := List.forall_mem_cons.mp h
      intro n
      rw [List.foldlM_cons, hd c hc]
      exact ih hcs _
  exact hf 0

namespace Url

variable {A S H P cs : List Char}

theorem userInfo_absent (h : '@' ∉ cs) : userInfo cs = (none, cs) := by
  rw [userInfo, if_neg (by simpa using h)]

theorem userInfo_present (u : List Char) (h : '@' ∉ cs) :
    userInfo (u ++ '@' :: cs) = (some u, cs) := by
  have hr : ((u ++ '@' :: cs).reverse.takeWhile (· != '@')).reverse = cs := by
    have ha : ∀ c ∈ cs.reverse, (c != '@') = true := by
      intro c hc
      simp only [bne_iff_ne, ne_eq]
      rintro rfl
      exact h (List.mem_reverse.mp hc)
    rw [List.reverse_append, List.reverse_cons, List.append_assoc,
      List.takeWhile_append_of_pos ha]
    simp
  have hl : (u ++ '@' :: cs).length - cs.length - 1 = u.length := by
    rw [List.length_append, List.length_cons]
    omega
  rw [userInfo, hr, if_pos (by simp), hl, List.take_left]

theorem hostLength_eq (hH : ∀ c ∈ H, c ≠ ':' ∧ c ≠ '[') (hP : ∀ c ∈ P.head?, c = ':') :
    hostLength false (H ++ P) = H.length := by
  induction H with
  | nil =>
    cases P with
    | nil => rfl
    | cons c P => exact if_pos ⟨hP c rfl, by decide⟩
  | cons c H ih =>
    obtain ⟨hc, hH⟩ := List.forall_mem_cons.mp hH
    rw [List.cons_append, hostLength, if_neg (fun h => hc.1 h.1), if_neg hc.2, ite_self, ih hH,
      List.length_cons]

theorem portFits_eq (hd : ∀ c ∈ cs, c.isDigit) (hn : Nat.ofDigitChars 10 cs 0 ≤ 65535)
    (hS : ∀ c ∈ S.head?, c = '/' ∨ c = '?' ∨ c = '#') : portFits (cs ++ S) := by
  have ht : S.takeWhile Char.isDigit = [] ∧ S.dropWhile Char.isDigit = S := by
    cases S with
    | nil => exact ⟨rfl, rfl⟩
    | cons c S =>
      have hc : c.isDigit = false := by obtain rfl | rfl | rfl := hS c rfl <;> rfl
      exact ⟨List.takeWhile_cons_of_neg (by simp [hc]), List.dropWhile_cons_of_neg (by simp [hc])⟩
  have hs : (S.head?.all fun c => slash c || c = '?' || c = '#') = true := by
    cases S with
    | nil => rfl
    | cons c S => obtain rfl | rfl | rfl := hS c rfl <;> rfl
  simp only [portFits, List.takeWhile_append_of_pos hd, List.dropWhile_append_of_pos hd, ht,
    List.append_nil, hs, Address.number?_digits hd, Option.all_some, hn, decide_true,
    Bool.and_self]

theorem authorityHost_eq {user : Option (List Char)} {d : String}
    (hA : ∀ c ∈ A, ¬ ends .special c) (hS : ∀ c ∈ S.head?, ends .special c)
    (hu : userInfo A = (user, H ++ P)) (hl : hostLength false (H ++ P) = H.length) (hH : H ≠ [])
    (hd : namedHost H = .ok d) (hne : d ≠ "")
    (hP : P = [] ∨ ∃ ds, P = ':' :: ds ∧ portFits (ds ++ S)) :
    authorityHost .special (A ++ S) = .ok d := by
  have ht : (A ++ S).takeWhile (!ends .special ·) = A := by
    rw [List.takeWhile_append_of_pos fun c hc => by simpa using hA c hc]
    cases S with
    | nil => simp
    | cons c S => simp [hS c rfl]
  have hb : ∀ f : String → Except Fault String, (namedHost H >>= f) = f d := by
    rw [hd]
    exact fun _ => rfl
  unfold authorityHost
  rw [ht]
  obtain rfl | ⟨ds, rfl, hf⟩ := hP
  · rw [List.append_nil] at hl hu
    simp [hu, hl, hH, hb, hne, pure, Except.pure]
  · simp [hu, hl, hH, hb, hne, hf, pure, Except.pure]

theorem clean_self (h : ∀ c ∈ cs, 32 < c.toNat) : clean cs = cs := by
  have ht : ∀ xs : List Char, (∀ c ∈ xs, 32 < c.toNat) → xs.dropWhile trimmed = xs := by
    intro xs hx
    cases xs with
    | nil => rfl
    | cons c xs =>
      have hc : ¬ trimmed c := by simpa [trimmed] using hx c List.mem_cons_self
      exact List.dropWhile_cons_of_neg hc
  rw [clean, ht cs h, ht _ fun c hc => h c (List.mem_reverse.mp hc), List.reverse_reverse,
    List.filter_eq_self]
  intro c hc
  have hne : ∀ d : Char, d.toNat ≤ 32 → c ≠ d := by
    rintro d hd rfl
    exact absurd (h c hc) (Nat.not_lt.mpr hd)
  simp [hne '\t' (by decide), hne '\n' (by decide), hne '\r' (by decide)]

theorem host_https {s : String} (h : ∀ c ∈ s.toList, 32 < c.toNat)
    (hs : ∀ c ∈ s.toList.head?, ¬ slash c) :
    host ("https://" ++ s) = authorityHost .special s.toList := by
  have ht : ("https://" ++ s).toList
      = ['h', 't', 't', 'p', 's'] ++ ':' :: '/' :: '/' :: s.toList := by simp
  have hc : clean ("https://" ++ s).toList = ("https://" ++ s).toList := by
    apply clean_self
    simpa [ht] using h
  have hk : scheme? (['h', 't', 't', 'p', 's'] ++ ':' :: '/' :: '/' :: s.toList)
      = some (.special, '/' :: '/' :: s.toList) := by
    have ha : ∀ c ∈ ['h', 't', 't', 'p', 's'], schemeChar c := by simp [schemeChar]
    have hn : schemeOf (String.ofList (['h', 't', 't', 'p', 's'].map Char.toLower)) = .special := by
      decide
    have hi : schemeChar ':' = false := by decide
    simp only [scheme?, List.takeWhile_append_of_pos ha, List.dropWhile_append_of_pos ha,
      List.takeWhile_cons, List.dropWhile_cons, hi, Bool.false_eq_true, ↓reduceIte,
      List.append_nil, hn]
    rfl
  have hd : s.toList.dropWhile slash = s.toList := by
    cases hl : s.toList with
    | nil => rfl
    | cons c cs => exact List.dropWhile_cons_of_neg (hs c (by rw [hl]; rfl))
  rw [host, hc, ht, hk]
  exact congrArg (authorityHost .special) hd

end Url

namespace WebAddress

variable {a : WebAddress} {c : Char}

theorem authority_literal (hc : c.isAlphanum ∨ c = '-' ∨ c = '.' ∨ c = '@' ∨ c = ':') :
    32 < c.toNat ∧ ¬ Url.ends .special c ∧ ¬ Url.slash c := by
  have hl : c.toNat < 128 := by
    obtain hc | rfl | rfl | rfl | rfl := hc
    · exact lt_of_isAlphanum hc
    all_goals decide
  have ha : c.isAlphanum ∨ c = '-' ∨ c = '.' ∨ c = '@' ∨ c = ':' →
      32 < c.toNat ∧ ¬ Url.ends .special c ∧ ¬ Url.slash c :=
    forall_ascii (P := fun c => c.isAlphanum ∨ c = '-' ∨ c = '.' ∨ c = '@' ∨ c = ':' →
      32 < c.toNat ∧ ¬ Url.ends .special c ∧ ¬ Url.slash c) (by decide) hl
  exact ha hc

theorem tail_visible (hc : tailChar c) : 32 < c.toNat := by
  have ha : ∀ d : Char, d.isAlphanum ∨ d = '-' ∨ d = '.' ∨ d = '@' ∨ d = ':' → 32 < d.toNat :=
    fun d hd => (authority_literal hd).1
  simp only [tailChar, Bool.or_eq_true, decide_eq_true_eq] at hc
  obtain ((hc | rfl) | rfl) | rfl := hc
  · exact ha c (.inl hc)
  all_goals decide

theorem mem_behind {mark : String} {part : Option String} (hc : c ∈ (behind mark part).toList) :
    c ∈ mark.toList ∨ ∃ s ∈ part, c ∈ s.toList := by
  cases part with
  | none => cases hc
  | some s => simpa [behind] using hc

theorem Plain.tail_chars (h : a.Plain) : ∀ c ∈ a.tail.toList, 32 < c.toNat := by
  have hp : ∀ {mark : String} {part : Option String}, (∀ c ∈ mark.toList, 32 < c.toNat) →
      MadeOf tailChar part → ∀ c ∈ (behind mark part).toList, 32 < c.toNat := by
    intro mark part hm hs c hc
    obtain hc | ⟨s, hs', hc⟩ := mem_behind hc
    · exact hm c hc
    · exact tail_visible (hs s hs' c hc)
  simp only [tail, String.toList_append, List.forall_mem_append]
  exact ⟨⟨hp (by simp) h.path, hp (by simp) h.query⟩, hp (by simp) h.fragment⟩

theorem tail_head (a : WebAddress) : ∀ c ∈ a.tail.toList.head?, c = '/' ∨ c = '?' ∨ c = '#' := by
  obtain ⟨user, host, port, path, query, fragment⟩ := a
  cases path <;> cases query <;> cases fragment <;> simp [tail, behind]

theorem Plain.port_chars (h : a.Plain) :
    ∀ c ∈ (behind ":" a.port).toList, c.isDigit ∨ c = ':' := by
  intro c hc
  obtain hc | ⟨p, hp, hc⟩ := mem_behind hc
  · exact .inr (by simpa using hc)
  · exact .inl (h.digits p hp c hc)

theorem Plain.authority_chars (h : a.Plain) : ∀ c ∈ a.authority.toList,
    c.isAlphanum ∨ c = '-' ∨ c = '.' ∨ c = '@' ∨ c = ':' := by
  simp only [authority, String.toList_append, List.forall_mem_append]
  refine ⟨⟨fun c hc => ?_, fun c hc => ?_⟩, fun c hc => ?_⟩
  · cases hu : a.user with
    | none =>
      rw [hu] at hc
      cases hc
    | some u =>
      rw [hu, Option.elim_some, String.toList_append] at hc
      obtain hc | hc := List.mem_append.mp hc
      · exact .inl (h.user u hu c hc)
      · exact .inr (.inr (.inr (.inl (by simpa using hc))))
  · obtain hc | rfl | rfl := h.host.chars c hc <;> simp [*]
  · obtain hc | rfl := h.port_chars c hc <;> simp [Char.isAlphanum, *]

theorem Plain.userInfo_eq (h : a.Plain) : ∃ user, Url.userInfo a.authority.toList
    = (user, a.host.toList ++ (behind ":" a.port).toList) := by
  have hn : '@' ∉ a.host.toList ++ (behind ":" a.port).toList := by
    rw [List.mem_append, not_or]
    exact ⟨fun hc => absurd (h.host.chars _ hc) (by decide),
      fun hc => absurd (h.port_chars _ hc) (by decide)⟩
  rw [authority, String.append_assoc, String.toList_append, String.toList_append]
  cases a.user with
  | none => exact ⟨none, Url.userInfo_absent hn⟩
  | some u =>
    have hu : (u ++ "@").toList = u.toList ++ ['@'] := by simp
    rw [Option.elim_some, hu, List.append_assoc]
    exact ⟨some u.toList, Url.userInfo_present _ hn⟩

theorem Plain.port_fits (h : a.Plain) : (behind ":" a.port).toList = [] ∨
    ∃ ds, (behind ":" a.port).toList = ':' :: ds ∧ Url.portFits (ds ++ a.tail.toList) := by
  cases hp : a.port with
  | none => exact .inl rfl
  | some p =>
    have hf := Url.portFits_eq (h.digits p hp) (h.port p hp) a.tail_head
    exact .inr ⟨p.toList, by simp [behind], hf⟩

theorem Plain.hostLength_eq (h : a.Plain) :
    Url.hostLength false (a.host.toList ++ (behind ":" a.port).toList) = a.host.toList.length := by
  apply Url.hostLength_eq
  · intro c hc
    constructor
    all_goals
      rintro rfl
      exact absurd (h.host.chars _ hc) (by decide)
  · intro c hc
    cases hp : a.port with
    | none =>
      rw [hp] at hc
      cases hc
    | some p => simpa [hp, behind, eq_comm] using hc

/-- The host of an address is its host name in lower case. -/
theorem Plain.host_eq (h : a.Plain) : Url.host a.text = .ok a.host.toLower := by
  have ha : ∀ c ∈ a.authority.toList, 32 < c.toNat ∧ ¬ Url.ends .special c ∧ ¬ Url.slash c :=
    fun c hc => authority_literal (h.authority_chars c hc)
  have hv : ∀ c ∈ (a.authority ++ a.tail).toList, 32 < c.toNat := by
    rw [String.toList_append]
    exact List.forall_mem_append.mpr ⟨fun c hc => (ha c hc).1, h.tail_chars⟩
  have hH : a.host.toList ≠ [] := by simpa using h.host.ne_empty
  have hn : a.host.toLower ≠ "" := by
    rw [← String.toList_eq_nil_iff.ne, String.toLower, String.toList_map]
    simpa using h.host.ne_empty
  have hs : ∀ c ∈ (a.authority ++ a.tail).toList.head?, ¬ Url.slash c := by
    have hA : a.authority.toList ≠ [] := by simp [authority, h.host.ne_empty]
    rw [String.toList_append, List.head?_append_of_ne_nil _ hA]
    exact fun c hc => (ha c (List.mem_of_mem_head? hc)).2.2
  have ht : ∀ c ∈ a.tail.toList.head?, Url.ends .special c := by
    intro c hc
    obtain rfl | rfl | rfl := a.tail_head c hc <;> rfl
  obtain ⟨user, hu⟩ := h.userInfo_eq
  rw [text, String.append_assoc, Url.host_https hv hs, String.toList_append]
  exact Url.authorityHost_eq (fun c hc => (ha c hc).2.1) ht hu h.hostLength_eq hH
    h.host.namedHost_eq hn h.port_fits

end WebAddress

end TokenCourier
