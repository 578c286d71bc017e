import TokenCourier.Proofs.Store.Answers
import TokenCourier.Proofs.Text.Parts
import TokenCourier.Proofs.Unicode.Ascii
import TokenCourier.Url.Host

namespace TokenCourier

/-- Labels with dots between them, none of them Punycode. The last cannot be taken for a number. -/
structure HostName (h : String) : Prop where
  chars : ∀ c ∈ h.toList, c.isAlphanum ∨ c = '-' ∨ c = '.'
  nonempty : ∀ l ∈ CharSet.parts (· = '.') h.toList, l ≠ []
  unencoded : ∀ l ∈ CharSet.parts (· = '.') h.toList,
    ¬ ['x', 'n', '-', '-'] <+: l.map Char.toLower
  last : ∀ l ∈ (CharSet.parts (· = '.') h.toList).getLast?, ∀ c ∈ l.head?, c.isAlpha

instance (h : String) : Decidable (HostName h) :=
  let labels := CharSet.parts (· = '.') h.toList
  decidable_of_iff
    (h.toList.all (fun c => c.isAlphanum || c = '-' || c = '.') ∧ labels.all (· ≠ []) ∧
      labels.all (fun l => ¬ ['x', 'n', '-', '-'] <+: l.map Char.toLower) ∧
      labels.getLast?.all fun l => l.head?.all Char.isAlpha)
    (by
      simp only [List.all_eq_true, Option.all_eq_true, Bool.or_eq_true, decide_eq_true_eq,
        or_assoc]
      exact ⟨fun h => ⟨h.1, h.2.1, h.2.2.1, h.2.2.2⟩, fun h => ⟨h.1, h.2, h.3, h.4⟩⟩)

section Bytes

variable {cs : List Char} {bs : List UInt8}

theorem bytes_toList (bs : ByteArray) : bs.toList = bs.data.toList := by
  have hl : ∀ i r, ByteArray.toList.loop bs i r = r.reverse ++ bs.data.toList.drop i := by
    intro i r
    fun_induction ByteArray.toList.loop bs i r with
    | case1 i r h ih =>
      have hi : i < bs.data.toList.length := by simpa using h
      rw [ih, List.drop_eq_getElem_cons hi]
      simp [ByteArray.get!, h]
    | case2 i r h =>
      rw [List.drop_eq_nil_of_le (by simpa using h), List.append_nil]
  exact hl 0 []

theorem toUTF8_ascii (h : ∀ c ∈ cs, c.toNat < 128) :
    (String.ofList cs).toUTF8.toList = cs.map fun c => c.val.toUInt8 := by
  have he : cs.flatMap String.utf8EncodeChar = cs.map fun c => c.val.toUInt8 := by
    rw [List.map_eq_flatMap]
    apply List.flatMap_congr
    intro c hc
    apply String.utf8EncodeChar_eq_singleton
    rw [Char.utf8Size_eq_one_iff, UInt32.le_iff_toNat_le]
    exact Nat.le_of_lt_succ (h c hc)
  rw [bytes_toList, String.toUTF8, String.toByteArray_ofList, List.utf8Encode,
    List.data_toByteArray, he]

theorem percentDecode_of_none (h : 37 ∉ bs) : Url.percentDecode bs = bs := by
  induction bs with
  | nil => rfl
  | cons b bs ih =>
    rw [List.mem_cons, not_or] at h
    rw [Url.percentDecode, ih h.2]
    intro _ _ _ hb
    exact absurd hb.symm h.1

theorem decode_literal (h : ∀ c ∈ cs, c.toNat < 128 ∧ c ≠ '%') :
    Utf8.decode ⟨(Url.percentDecode (String.ofList cs).toUTF8.toList).toArray⟩
      = .ok (String.ofList cs) := by
  have hp : 37 ∉ (String.ofList cs).toUTF8.toList := by
    rw [toUTF8_ascii fun c hc => (h c hc).1, List.mem_map]
    rintro ⟨c, hc, he⟩
    apply (h c hc).2
    have hn : c.toNat % 256 = 37 := congrArg UInt8.toNat he
    rw [Nat.mod_eq_of_lt (Nat.lt_trans (h c hc).1 (by decide))] at hn
    exact Char.toNat_inj.mp hn
  rw [percentDecode_of_none hp, bytes_toList, Array.toArray_toList]
  exact Utf8.decode_toUTF8 _

end Bytes

section Characters

variable {c d : Char}

theorem lt_of_isAlphanum (hc : c.isAlphanum) : c.toNat < 128 := by
  simp only [Char.isAlphanum, Char.isAlpha, Char.isUpper, Char.isLower, Char.isDigit,
    Bool.or_eq_true, Bool.and_eq_true, decide_eq_true_eq, UInt32.le_iff_toNat_le, ge_iff_le,
    Char.toNat_val] at hc
  obtain (⟨-, hc⟩ | ⟨-, hc⟩) | ⟨-, hc⟩ := hc <;> exact Nat.lt_of_le_of_lt hc (by decide)

theorem forall_ascii {P : Char → Prop} (h : ∀ n < 128, P (Char.ofNat n)) (hc : c.toNat < 128) :
    P c := by
  have hn := h c.toNat hc
  rwa [Char.ofNat_toNat] at hn

theorem toLower_eq_iff (hd : ¬ d.isAlpha) : c.toLower = d ↔ c = d := by
  have hl : ¬ c.isAlpha → c.toLower = c := fun hc =>
    Char.toLower_eq_of_not_isUpper fun hu => hc (by simp [Char.isAlpha, hu])
  constructor
  · rintro rfl
    rw [Char.isAlpha_toLower_eq_isAlpha] at hd
    exact (hl hd).symm
  · rintro rfl
    exact hl hd

theorem isAlphanum_toLower (c : Char) : c.toLower.isAlphanum = c.isAlphanum := by
  by_cases hc : c.isAlpha
  · simp [Char.isAlphanum, hc]
  · rw [(toLower_eq_iff hc).mpr rfl]

end Characters

namespace Domain

variable {l cs : List Char}

theorem readable?_self (hl : ¬ ['x', 'n', '-', '-'] <+: l) : readable? l = some l := by
  unfold readable?
  split
  · next rest => exact absurd ⟨rest, rfl⟩ hl
  · rfl

theorem join_labels (cs : List Char) : join (labels cs) = cs := by
  induction cs with
  | nil => rfl
  | cons c cs ih =>
    obtain ⟨w, ws, hw⟩ := List.exists_cons_of_ne_nil (CharSet.parts_ne_nil (p := (· = '.')) cs)
    rw [labels, hw] at ih
    cases hc : decide (c = '.') with
    | true =>
      rw [labels, CharSet.parts_separator hc, hw, join, ih, of_decide_eq_true hc]
      · rfl
      · simp
    | false =>
      obtain ⟨v, vs, hv, hp⟩ := CharSet.parts_cons (p := (· = '.')) hc cs
      obtain ⟨rfl, rfl⟩ := List.cons.inj (hv.symm.trans hw)
      rw [labels, hp]
      cases vs with
      | nil => exact congrArg (c :: ·) ih
      | cons u us => exact congrArg (c :: ·) ih

theorem valid_ascii (h : ∀ c ∈ l, c.toNat < 128 ∧ ¬ forbidden c) : valid l := by
  have hm : (l.head?.map Composites.marks.contains).getD false = false := by
    cases l with
    | nil => rfl
    | cons c l =>
      rw [List.head?_cons, Option.map_some, Option.getD_some,
        Composites.not_mark (h c List.mem_cons_self).1]
  have hf : (l.all fun c => !(Punycode.ascii c && forbidden c)) = true := by
    rw [List.all_eq_true]
    intro c hc
    simp [(h c hc).2]
  rw [valid, hm, hf, joinersFit_ascii [] fun c hc => (h c hc).1]
  rfl

theorem mapM_some {α β : Type} {f : α → Option β} {g : α → β} {xs : List α}
    (h : ∀ x ∈ xs, f x = some (g x)) : xs.mapM f = some (xs.map g) := by
  induction xs with
  | nil => rfl
  | cons x xs ih =>
    obtain ⟨hx, hxs⟩ := List.forall_mem_cons.mp h
    rw [List.mapM_cons, hx, ih hxs]
    rfl

/-- A name of ASCII is put in lower case, if none of its labels is Punycode then. -/
theorem toAscii?_ascii (h : ∀ c ∈ cs, c.toNat < 128)
    (hl : ∀ c ∈ cs.map Char.toLower, c.toNat < 128 ∧ ¬ forbidden c)
    (hn : ∀ l ∈ labels (cs.map Char.toLower), ¬ ['x', 'n', '-', '-'] <+: l) :
    toAscii? cs = some (cs.map Char.toLower) := by
  have hm : cs.mapM replace? = some (cs.map fun c => [c.toLower]) :=
    mapM_some fun c hc => if_pos (h c hc)
  have hc : Composed.compose (cs.map fun c => [c.toLower]).flatten = cs.map Char.toLower := by
    rw [← List.flatMap_def, ← List.map_eq_flatMap]
    exact Composed.compose_ascii fun c hc => (hl c hc).1
  have hr : (labels (cs.map Char.toLower)).mapM readable?
      = some (labels (cs.map Char.toLower)) := by
    have hs := mapM_some (f := readable?) (g := id) fun l hl' => readable?_self (hn l hl')
    rwa [List.map_id] at hs
  have hp : ∀ l ∈ labels (cs.map Char.toLower), ∀ c ∈ l, c.toNat < 128 ∧ ¬ forbidden c :=
    fun l hl' c hc => hl c (CharSet.mem_parts hl' hc).1
  have hv : (labels (cs.map Char.toLower)).all valid = true :=
    List.all_eq_true.mpr fun l hl' => valid_ascii (hp l hl')
  have hd : ((labels (cs.map Char.toLower)).any (·.any fun c =>
      classOf c == .right || classOf c == .arabicNumber)) = false := by
    simp only [List.any_eq_false, Bool.or_eq_true, beq_iff_eq, not_or, Bool.not_eq_true]
    exact fun l hl' c hc => classOf_ascii (hp l hl' c hc).1
  have hw : (labels (cs.map Char.toLower)).map write = labels (cs.map Char.toLower) := by
    refine (List.map_congr_left fun l hl' => if_pos ?_).trans (List.map_id _)
    exact List.all_eq_true.mpr fun c hc => decide_eq_true (hp l hl' c hc).1
  simp only [toAscii?, hm, hc, hr, hv, hd, hw, join_labels, Option.bind_eq_bind, Option.bind_some,
    Bool.not_false, Bool.true_or, guard, ↓reduceIte]
  rfl

end Domain

namespace Address

variable {cs l : List Char}

theorem letter_no_digit {c : Char} (hc : c.isAlpha) :
    c.isDigit = false ∧ digitIn? 10 c = none := by
  have ha : c.isAlpha → c.isDigit = false ∧ digitIn? 10 c = none :=
    forall_ascii (P := fun c => c.isAlpha → c.isDigit = false ∧ digitIn? 10 c = none) (by decide)
      (lt_of_isAlphanum (by simp [Char.isAlphanum, hc]))
  exact ha hc

theorem part?_letter {c : Char} (hc : c.isAlpha) (cs : List Char) : part? (c :: cs) = none := by
  have hz : c ≠ '0' := by
    rintro rfl
    exact absurd hc (by decide)
  unfold part?
  split
  · rfl
  · next h => exact absurd (List.cons.inj h).1 hz
  · next h => exact absurd (List.cons.inj h).1 hz
  · next h => exact absurd (List.cons.inj h).1 hz
  · rw [number?, List.foldlM_cons, (letter_no_digit hc).2]
    rfl

theorem endsInNumber_letter {c : Char} (hc : c.isAlpha) (hl : (dots cs).getLast? = some (c :: l)) :
    endsInNumber cs = false := by
  have hp : parts cs = dots cs := by
    rw [parts, if_neg]
    rw [hl]
    simp
  rw [endsInNumber, hp, hl]
  simp [part?_letter hc, letter_no_digit hc]

end Address

namespace HostName

variable {h : String}

theorem lower_parts (h : String) : CharSet.parts (· = '.') h.toLower.toList
    = (CharSet.parts (· = '.') h.toList).map (List.map Char.toLower) := by
  rw [String.toLower, String.toList_map]
  exact CharSet.parts_map (fun c => by simp [toLower_eq_iff (c := c) (d := '.') (by decide)]) _

theorem lower_chars (hh : HostName h) :
    ∀ c ∈ h.toLower.toList, c.isAlphanum ∨ c = '-' ∨ c = '.' := by
  rw [String.toLower, String.toList_map]
  intro c hc
  obtain ⟨d, hd, rfl⟩ := List.mem_map.mp hc
  rw [isAlphanum_toLower, toLower_eq_iff (by decide), toLower_eq_iff (by decide)]
  exact hh.chars d hd

theorem ne_empty (hh : HostName h) : h ≠ "" := by
  rintro rfl
  exact hh.nonempty [] (by decide) rfl

theorem char_ascii {c : Char} (hc : c.isAlphanum ∨ c = '-' ∨ c = '.') :
    c.toNat < 128 ∧ ¬ Domain.forbidden c := by
  have hl : c.toNat < 128 := by
    obtain hc | rfl | rfl := hc
    · exact lt_of_isAlphanum hc
    · decide
    · decide
  have hf : c.isAlphanum ∨ c = '-' ∨ c = '.' → ¬ Domain.forbidden c :=
    forall_ascii (P := fun c => c.isAlphanum ∨ c = '-' ∨ c = '.' → ¬ Domain.forbidden c)
      (by decide) hl
  exact ⟨hl, hf hc⟩

theorem toAscii?_eq (hh : HostName h) : Domain.toAscii? h.toList = some h.toLower.toList := by
  have hl : h.toLower.toList = h.toList.map Char.toLower := String.toList_map
  rw [hl]
  apply Domain.toAscii?_ascii fun c hc => (char_ascii (hh.chars c hc)).1
  · rw [← hl]
    exact fun c hc => char_ascii (hh.lower_chars c hc)
  · rw [← hl, Domain.labels, lower_parts]
    intro l hm
    obtain ⟨k, hk, rfl⟩ := List.mem_map.mp hm
    exact hh.unencoded k hk

theorem endsInNumber_eq (hh : HostName h) : Address.endsInNumber h.toLower.toList = false := by
  have hn := CharSet.parts_ne_nil (p := (· = '.')) h.toList
  obtain ⟨l, hl⟩ := Option.isSome_iff_exists.mp (List.getLast?_isSome.mpr hn)
  obtain ⟨c, cs, rfl⟩ := List.exists_cons_of_ne_nil (hh.nonempty l (List.mem_of_getLast? hl))
  have hc : c.toLower.isAlpha := by
    rw [Char.isAlpha_toLower_eq_isAlpha]
    exact hh.last _ hl c rfl
  apply Address.endsInNumber_letter (l := cs.map Char.toLower) hc
  rw [Address.dots, lower_parts, List.getLast?_map, hl]
  rfl

/-- In a URL a host name stands for itself, in lower case. -/
theorem namedHost_eq (hh : HostName h) : Url.namedHost h.toList = .ok h.toLower := by
  have hb : Url.bracketed? h.toList = none := by
    unfold Url.bracketed?
    split
    · next rest hs =>
      have hc := hh.chars '[' (hs ▸ List.mem_cons_self)
      exact absurd hc (by decide)
    · rfl
  have hd : Utf8.decode ⟨(Url.percentDecode (String.ofList h.toList).toUTF8.toList).toArray⟩
      = .ok (String.ofList h.toList) := by
    refine decode_literal fun c hc => ⟨(char_ascii (hh.chars c hc)).1, ?_⟩
    rintro rfl
    exact (char_ascii (hh.chars _ hc)).2 (by decide)
  have hn : h.toLower.toList ≠ [] := by
    rw [String.toLower, String.toList_map]
    simpa using hh.ne_empty
  obtain ⟨c, cs, hs⟩ := List.exists_cons_of_ne_nil hn
  have ht := hh.toAscii?_eq
  have he := hh.endsInNumber_eq
  rw [hs] at ht he
  simp only [Url.namedHost, hb, hd, String.toList_ofList, ht, he, Bool.false_eq_true, ↓reduceIte]
  rw [← hs, String.ofList_toList]

end HostName

end TokenCourier
