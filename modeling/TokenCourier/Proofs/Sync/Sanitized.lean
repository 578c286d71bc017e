import TokenCourier.Proofs.Sync.Labels

namespace TokenCourier.Label

/-- A value of letters, digits, hyphens and underscores, with a letter or digit at both ends. It may
be empty. -/
structure Sanitized (s : String) : Prop where
  short : s.length ≤ 63
  chars : ∀ c ∈ s.toList, c.isAlphanum ∨ c = '-' ∨ c = '_'
  bothEnds : BothEnds Char.isAlphanum s.toList

/-- From the first letter or digit of a text to the last. -/
structure Core (text core : List Char) : Prop where
  within : ∃ before after, text = before ++ core ++ after ∧ ∀ c ∈ before ++ after, ¬ c.isAlphanum
  nonempty : core ≠ []
  bothEnds : BothEnds Char.isAlphanum core

def hyphened (c : Char) : Char := if c.isAlphanum ∨ c = '-' ∨ c = '_' then c else '-'

variable {cs : List Char}

theorem plain_iff {c : Char} : plain c ↔ c.isAlphanum ∨ c = '-' ∨ c = '_' := by
  simp [plain, alnum, or_assoc]

theorem alnum_hyphened (c : Char) : alnum (hyphened c) = alnum c := by
  by_cases hc : c.isAlphanum ∨ c = '-' ∨ c = '_'
  · rw [hyphened, if_pos hc]
  · have ha : alnum c = false := Bool.eq_false_iff.mpr fun h => hc (.inl h)
    rw [hyphened, if_neg hc, ha]
    rfl

theorem trim_map {f : Char → Char} (hf : ∀ c, alnum (f c) = alnum c) (cs : List Char) :
    trim (cs.map f) = (trim cs).map f := by
  have hl : ∀ xs : List Char, trimLeft (xs.map f) = (trimLeft xs).map f := by
    intro xs
    rw [trimLeft, List.dropWhile_map]
    simp only [Function.comp_def, hf]
    rfl
  rw [trim, hl, ← List.map_reverse, hl, ← List.map_reverse]
  rfl

theorem sanitizeChars_eq (cs : List Char) :
    sanitizeChars cs = (trim (cs.take 63)).map hyphened := by
  have hf : (fun c => if plain c then c else '-') = hyphened := by
    funext c
    simp only [hyphened, plain_iff]
  rw [sanitizeChars, hf, trim_map alnum_hyphened]
  rfl

theorem trim_within (cs : List Char) : ∃ before after, cs = before ++ trim cs ++ after ∧
    ∀ c ∈ before ++ after, ¬ alnum c := by
  refine ⟨cs.takeWhile (!alnum ·), (trimLeft cs).rtakeWhile (!alnum ·), ?_, fun c hc => ?_⟩
  · have hr : trim cs ++ (trimLeft cs).rtakeWhile (!alnum ·) = trimLeft cs :=
      List.rdropWhile_append_rtakeWhile
    rw [List.append_assoc, hr]
    exact List.takeWhile_append_dropWhile.symm
  · have hn : (!alnum c) = true := by
      obtain hc | hc := List.mem_append.mp hc
      · exact List.mem_takeWhile_imp (p := (!alnum ·)) hc
      · exact List.mem_rtakeWhile_imp (p := (!alnum ·)) hc
    simpa using hn

theorem trim_eq_nil : trim cs = [] ↔ ∀ c ∈ cs, ¬ alnum c := by
  obtain ⟨before, after, hs, hn⟩ := trim_within cs
  constructor
  · intro ht c hc
    rw [hs, ht, List.append_nil] at hc
    exact hn c hc
  · intro h
    by_contra ht
    obtain ⟨c, rest, hc⟩ := List.exists_cons_of_ne_nil ht
    have hm : c ∈ cs := (trim_sublist cs).subset (hc ▸ List.mem_cons_self)
    exact h c hm ((trim_bothEnds cs).first c (by rw [hc]; rfl))

theorem core_trim (hc : trim cs ≠ []) : Core cs (trim cs) :=
  ⟨trim_within cs, hc, trim_bothEnds cs⟩

theorem trim_of_bothEnds (h : BothEnds alnum cs) : trim cs = cs := by
  have hl : ∀ xs : List Char, (∀ c ∈ xs.head?, alnum c) → trimLeft xs = xs := by
    intro xs hx
    cases xs with
    | nil => rfl
    | cons c xs => rw [trimLeft, List.dropWhile_cons_of_neg (by simpa using hx c rfl)]
  have hr : ∀ c ∈ cs.reverse.head?, alnum c := by
    rw [List.head?_reverse]
    exact h.last
  rw [trim, hl cs h.first, hl _ hr, List.reverse_reverse]

variable {s : String}

theorem sanitize_eq_empty : sanitize s = "" ↔ trim (s.toList.take 63) = [] := by
  rw [sanitize, sanitizeChars_eq, ← String.toList_inj, String.toList_ofList]
  simp

theorem sanitized_sanitize (s : String) : Sanitized (sanitize s) where
  short := (labelValue_sanitize s).short
  chars c hc := by
    rw [sanitize, String.toList_ofList, sanitizeChars_eq] at hc
    obtain ⟨d, -, rfl⟩ := List.mem_map.mp hc
    by_cases hd : d.isAlphanum ∨ d = '-' ∨ d = '_'
    · rwa [hyphened, if_pos hd]
    · rw [hyphened, if_neg hd]
      exact .inr (.inl rfl)
  bothEnds := (labelValue_sanitize s).bothEnds

theorem Sanitized.sanitize_eq (h : Sanitized s) : sanitize s = s := by
  have ht : s.toList.take 63 = s.toList := List.take_of_length_le h.short
  have hm : s.toList.map hyphened = s.toList :=
    (List.map_congr_left fun c hc => if_pos (h.chars c hc)).trans (List.map_id _)
  rw [sanitize, sanitizeChars_eq, ht, trim_of_bothEnds h.bothEnds, hm, String.ofList_toList]

/-- Whatever the text, its label value is sanitized: the core of the first 63 characters, with
hyphens for all others than letters, digits and underscores. A sanitized text is its own label
value. -/
theorem sanitize_exact (s : String) :
    Sanitized (sanitize s) ∧
      (sanitize s ≠ "" ↔ ∃ c ∈ s.toList.take 63, c.isAlphanum) ∧
      (sanitize s ≠ "" →
        ∃ core, Core (s.toList.take 63) core ∧ (sanitize s).toList = core.map hyphened) ∧
      (∀ t : String, t.toList.take 63 = s.toList.take 63 → sanitize t = sanitize s) ∧
      (Sanitized s → sanitize s = s) ∧ sanitize (sanitize s) = sanitize s := by
  refine ⟨sanitized_sanitize s, ?_, fun hs => ?_, fun t ht => ?_, Sanitized.sanitize_eq,
    (sanitized_sanitize s).sanitize_eq⟩
  · rw [Ne, sanitize_eq_empty, trim_eq_nil]
    simp only [not_forall, not_not, exists_prop]
    rfl
  · refine ⟨_, core_trim (mt sanitize_eq_empty.mpr hs), ?_⟩
    rw [sanitize, String.toList_ofList, sanitizeChars_eq]
  · rw [sanitize, sanitize, sanitizeChars_eq, sanitizeChars_eq, ht]

example : sanitize "_Zürich-1.é" = "Z-rich-1" := by decide +kernel

end TokenCourier.Label
