import Mathlib
import TokenCourier.Json.Printer
import TokenCourier.Json.Reader

namespace TokenCourier.Json

mutual

/-- Values that their text determines: nothing lost, and no number kept as it was written. -/
def plain : Json → Bool
  | .real _ | .unreadable => false
  | .int n => decide (-2 ^ 63 ≤ n ∧ n < 2 ^ 64)
  | .arr vs => plainItems vs
  | .obj ms => plainMembers ms
  | .null | .bool _ | .str _ => true

def plainItems : List Json → Bool
  | [] => true
  | v :: vs => plain v && plainItems vs

def plainMembers : List (String × Json) → Bool
  | [] => true
  | (_, v) :: ms => plain v && plainMembers ms

end

section Digits

theorem head_toDigits (n : Nat) (hn : 0 < n) : (Nat.toDigits 10 n).head? ≠ some '0' := by
  induction n using Nat.strong_induction_on with
  | _ n ih =>
    rw [Nat.toDigits_eq_if (by omega)]
    split
    · next h => interval_cases n <;> decide
    · next h =>
      have hd := ih (n / 10) (by omega) (by omega)
      rwa [List.head?_append_of_ne_nil _ Nat.toDigits_ne_nil]

theorem digit_of_mem {n : Nat} {c : Char} (h : c ∈ Nat.toDigits 10 n) : c.isDigit = true :=
  Nat.isDigit_of_mem_toDigits (by omega) (by omega) h

theorem digitsValue_toDigits (n : Nat) : digitsValue (Nat.toDigits 10 n) = n := by
  have h := Nat.ofDigitChars_ten_toDigits (n := n)
  rw [Nat.ofDigitChars_eq_foldl] at h
  exact h

theorem takeWhile_toDigits (n : Nat) :
    (Nat.toDigits 10 n).takeWhile Char.isDigit = Nat.toDigits 10 n :=
  List.takeWhile_eq_self_iff.mpr fun _ => digit_of_mem

theorem dropWhile_toDigits (n : Nat) : (Nat.toDigits 10 n).dropWhile Char.isDigit = [] :=
  List.dropWhile_eq_nil_iff.mpr fun _ => digit_of_mem

theorem numberValue_nat (n : Nat) (hn : n < 2 ^ 64) :
    numberValue (Nat.toDigits 10 n) = .int n := by
  have hs : (Nat.toDigits 10 n).head? ≠ some '-' := by
    intro h
    exact absurd (digit_of_mem (List.mem_of_head? h)) (by decide)
  have hb : n ≤ Nat.pow 2 64 - 1 := Nat.le_sub_one_of_lt hn
  simp only [numberValue, hs, decide_false, ↓reduceIte, takeWhile_toDigits,
    dropWhile_toDigits, digitsValue_toDigits, List.isEmpty_nil, Bool.false_and, Bool.not_false,
    Bool.and_true, hb, decide_true]

theorem numberValue_neg (n : Nat) (h0 : 0 < n) (hn : n ≤ 2 ^ 63) :
    numberValue ('-' :: Nat.toDigits 10 n) = .int (-n) := by
  have hz : (Nat.toDigits 10 n == ['0']) = false := by
    rw [beq_eq_false_iff_ne]
    intro h
    exact head_toDigits n h0 (by rw [h]; rfl)
  have hb : n ≤ Nat.pow 2 63 := hn
  simp only [numberValue, List.head?_cons, decide_true, ↓reduceIte, List.drop_succ_cons,
    List.drop_zero, takeWhile_toDigits, dropWhile_toDigits, digitsValue_toDigits,
    List.isEmpty_nil, hz, Bool.and_false, Bool.not_false, Bool.and_true, hb]

end Digits

namespace Reader

/-- Over the characters `cs` the reader goes from `r` to `t`. -/
def Reads (r : Reader) (cs : List Char) (t : Reader) : Prop := cs.foldlM step r = .ok t

theorem Reads.nil (r : Reader) : Reads r [] r := rfl

theorem Reads.append {r s t : Reader} {xs ys : List Char} (hx : Reads r xs s) (hy : Reads s ys t) :
    Reads r (xs ++ ys) t := by
  rw [Reads, List.foldlM_append, hx]
  exact hy

theorem Reads.cons {r s t : Reader} {c : Char} {cs : List Char} (hc : step r c = .ok s)
    (h : Reads s cs t) : Reads r (c :: cs) t := by
  rw [Reads, List.foldlM_cons, hc]
  exact h

theorem Reads.single {r s : Reader} {c : Char} (hc : step r c = .ok s) : Reads r [c] s :=
  Reads.cons hc (Reads.nil s)

variable (k : List Frame) (res : Option Json)

def awaitsValue : List Frame → Bool
  | .obj _ _ :: _ => false
  | _ => true

def filled (v : Json) : Reader :=
  match k with
  | [] => ⟨[], .after, some v⟩
  | .arr done :: k => ⟨.arr (v :: done) :: k, .after, res⟩
  | .member n done s :: k => ⟨.obj ((n, v) :: done) s :: k, .after, res⟩
  | .obj done s :: k => ⟨.obj done s :: k, .after, res⟩

variable {k}

theorem put_eq_filled (hk : awaitsValue k) (m : Mode) (v : Json) :
    put ⟨k, m, res⟩ v = filled k res v := by
  cases k with
  | nil => rfl
  | cons f k =>
    cases f with
    | obj => cases hk
    | arr | member => rfl

variable (k)

section Strings

theorem digitIn?_hexDigit (n : Nat) : digitIn? 16 (hexDigit n) = some (n % 16) := by
  have h : ∀ d, d < 16 → digitIn? 16 (Nat.digitChar d) = some d := by decide
  exact h (n % 16) (Nat.mod_lt n (by omega))

theorem reads_escape (cs : List Char) (c : Char) :
    Reads ⟨k, .quoted ⟨cs, none, true⟩, res⟩ (escape c)
      ⟨k, .quoted ⟨c :: cs, none, true⟩, res⟩ := by
  unfold escape
  split_ifs with h1 h2 h3 h4 h5 h6 h7 h8
  · subst h1; rfl
  · subst h2; rfl
  · subst h3; rfl
  · subst h4; rfl
  · subst h5; rfl
  · subst h6; rfl
  · subst h7; rfl
  · have hhi : c.toNat / 16 % 16 = c.toNat / 16 := Nat.mod_eq_of_lt (by omega)
    have hu : Quoted.unit ⟨cs, none, true⟩ c.toNat = ⟨c :: cs, none, true⟩ := by
      have h1 : ¬(0xD800 ≤ c.toNat ∧ c.toNat ≤ 0xDBFF) := by omega
      have h2 : ¬(0xDC00 ≤ c.toNat ∧ c.toNat ≤ 0xDFFF) := by omega
      simp only [Quoted.unit, if_neg h1, if_neg h2, Quoted.push, Quoted.settle, Char.ofNat_toNat]
    apply Reads.cons (s := ⟨k, .escape ⟨cs, none, true⟩, res⟩) rfl
    apply Reads.cons (s := ⟨k, .hex ⟨cs, none, true⟩ 3 0, res⟩) rfl
    apply Reads.cons (s := ⟨k, .hex ⟨cs, none, true⟩ 2 0, res⟩) rfl
    apply Reads.cons (s := ⟨k, .hex ⟨cs, none, true⟩ 1 0, res⟩) rfl
    refine Reads.cons (s := ⟨k, .hex ⟨cs, none, true⟩ 0 (c.toNat / 16), res⟩) ?_ ?_
    · simp only [step, digitIn?_hexDigit, hhi, Nat.mul_zero, Nat.zero_add]
    · apply Reads.single
      simp only [step, digitIn?_hexDigit]
      rw [show 16 * (c.toNat / 16) + c.toNat % 16 = c.toNat by omega, hu]
  · apply Reads.single
    simp only [step, if_neg h1, if_neg h2, if_neg h8, Quoted.push, Quoted.settle]

theorem reads_chars (s : List Char) (cs : List Char) :
    Reads ⟨k, .quoted ⟨cs, none, true⟩, res⟩ (s.flatMap escape)
      ⟨k, .quoted ⟨s.reverse ++ cs, none, true⟩, res⟩ := by
  induction s generalizing cs with
  | nil => exact Reads.nil _
  | cons c s ih =>
    rw [List.flatMap_cons, List.reverse_cons, List.append_assoc]
    exact (reads_escape k res cs c).append (ih (c :: cs))

theorem reads_quoted (s : String) :
    Reads ⟨k, .quoted {}, res⟩ (s.toList.flatMap escape ++ ['"'])
      (putQuoted ⟨k, .quoted ⟨s.toList.reverse, none, true⟩, res⟩
        ⟨s.toList.reverse, none, true⟩) := by
  have h := reads_chars k res s.toList []
  rw [List.append_nil] at h
  exact h.append (Reads.single rfl)

end Strings

section Numbers

theorem reads_digits (ds cs : List Char) (hd : ∀ c ∈ ds, c.isDigit = true) :
    Reads ⟨k, .number .whole cs, res⟩ ds ⟨k, .number .whole (ds.reverse ++ cs), res⟩ := by
  induction ds generalizing cs with
  | nil => exact Reads.nil _
  | cons d ds ih =>
    have h : d.isDigit = true := hd d (by simp)
    have ht := ih (d :: cs) fun c hc => hd c (by simp [hc])
    rw [List.reverse_cons, List.append_assoc]
    refine Reads.cons ?_ ht
    simp only [step, NumberPart.next?, h, ↓reduceIte]
    rfl

/-- `r` is part way through a whole number; once that ends, it goes on as `t`. -/
def Pending (r t : Reader) : Prop :=
  ∃ p cs, r.mode = .number p cs ∧ (p = .zero ∨ p = .whole) ∧ t = r.put (numberValue cs.reverse)

theorem reads_nat (hk : awaitsValue k) (n : Nat) (hn : n < 2 ^ 64) (c : Bool) :
    ∃ r, Reads ⟨k, .value c, res⟩ (Nat.toDigits 10 n) r ∧ Pending r (filled k res (.int n)) := by
  obtain ⟨d, ds, hs⟩ := List.exists_cons_of_ne_nil (Nat.toDigits_ne_nil (n := n) (b := 10))
  have hv := numberValue_nat n hn
  rw [hs] at hv
  have hd : d.isDigit = true := digit_of_mem (n := n) (by simp [hs])
  have hds : ∀ c ∈ ds, c.isDigit = true := fun c hc => digit_of_mem (n := n) (by simp [hs, hc])
  have hb : blank d = false := by
    cases hb : blank d with
    | false => rfl
    | true =>
      simp only [blank, Bool.or_eq_true, decide_eq_true_eq] at hb
      rcases hb with ((rfl | rfl) | rfl) | rfl <;> exact absurd hd (by decide)
  have hne : ∀ e : Char, e.isDigit = false → d ≠ e := by
    rintro e he rfl
    rw [hd] at he
    cases he
  rw [hs]
  by_cases h0 : d = '0'
  · subst h0
    have hn0 : n = 0 := by
      by_contra hpos
      exact head_toDigits n (by omega) (by rw [hs]; rfl)
    subst hn0
    have hnil : ds = [] := by
      have h := Nat.toDigits_zero 10
      rw [h] at hs
      simpa using hs
    subst hnil
    exact ⟨⟨k, .number .zero ['0'], res⟩, Reads.single rfl, .zero, ['0'], rfl, .inl rfl, by
      rw [List.reverse_singleton, hv, put_eq_filled res hk]⟩
  · refine ⟨⟨k, .number .whole (ds.reverse ++ [d]), res⟩,
      Reads.cons ?_ (reads_digits k res ds [d] hds),
      .whole, _, rfl, .inr rfl, ?_⟩
    · simp [step, structural, hb, hd, h0, hne ']' (by decide), hne '[' (by decide),
        hne '\x7b' (by decide), hne '"' (by decide), hne '-' (by decide)]
    · rw [List.reverse_append, List.reverse_reverse, List.reverse_singleton, List.singleton_append,
        hv, put_eq_filled res hk]

theorem reads_neg (hk : awaitsValue k) (n : Nat) (h0 : 0 < n) (hn : n ≤ 2 ^ 63) (c : Bool) :
    ∃ r, Reads ⟨k, .value c, res⟩ ('-' :: Nat.toDigits 10 n) r ∧
      Pending r (filled k res (.int (-n))) := by
  obtain ⟨d, ds, hs⟩ := List.exists_cons_of_ne_nil (Nat.toDigits_ne_nil (n := n) (b := 10))
  have hv := numberValue_neg n h0 hn
  have hd : d.isDigit = true := digit_of_mem (n := n) (by simp [hs])
  have hds : ∀ c ∈ ds, c.isDigit = true := fun c hc => digit_of_mem (n := n) (by simp [hs, hc])
  have h : d ≠ '0' := by
    rintro rfl
    exact head_toDigits n h0 (by rw [hs]; rfl)
  rw [hs] at hv ⊢
  refine ⟨⟨k, .number .whole (ds.reverse ++ [d, '-']), res⟩,
    Reads.cons (s := ⟨k, .number .sign ['-'], res⟩) rfl
      (Reads.cons ?_ (reads_digits k res ds [d, '-'] hds)), .whole, _, rfl, .inr rfl, ?_⟩
  · simp only [step, NumberPart.next?, h, hd, ↓reduceIte]
    rfl
  · rw [List.reverse_append, List.reverse_reverse,
      show [d, '-'].reverse ++ ds = '-' :: d :: ds from rfl, hv, put_eq_filled res hk]

end Numbers

section Values

def terminator (c : Char) : Bool := c = ',' || c = ']' || c = '\x7d'

/-- `r` goes on as `t` does, whatever ends the value that it has come to. -/
def EndsAs (r t : Reader) : Prop := r = t ∨ Pending r t

theorem next_of_terminator {p : NumberPart} (hp : p = .zero ∨ p = .whole) {c : Char}
    (hc : terminator c) : p.next? c = .ok none := by
  simp only [terminator, Bool.or_eq_true, decide_eq_true_eq] at hc
  rcases hp with rfl | rfl <;> rcases hc with (rfl | rfl) | rfl <;> rfl

theorem step_of_endsAs {r t : Reader} (h : EndsAs r t) (ht : t.mode = .after) {c : Char}
    (hc : terminator c) : step r c = step t c := by
  obtain rfl | ⟨p, cs, hm, hp, rfl⟩ := h
  · rfl
  · have hr : step (r.put (numberValue cs.reverse)) c
        = (r.put (numberValue cs.reverse)).structural c := by
      unfold step
      rw [ht]
    rw [hr]
    unfold step
    rw [hm]
    simp only [next_of_terminator hp hc]
    rfl

theorem finish_of_endsAs {r t : Reader} (h : EndsAs r t) (ht : t.mode = .after) :
    r.finish = t.finish := by
  obtain rfl | ⟨p, cs, hm, hp, rfl⟩ := h
  · rfl
  · have hc : p.complete = true := by rcases hp with rfl | rfl <;> rfl
    have h1 : r.atEnd = r.put (numberValue cs.reverse) := by
      unfold atEnd
      rw [hm]
      simp only [hc, ↓reduceIte]
    have h2 : (r.put (numberValue cs.reverse)).atEnd = r.put (numberValue cs.reverse) := by
      unfold atEnd
      rw [ht]
    unfold finish
    rw [h1, h2]

theorem Reads.endsAs_cons {r s t u : Reader} {c : Char} {xs : List Char} (hr : Reads u xs r)
    (h : EndsAs r t) (ht : t.mode = .after) (hc : terminator c) (hs : step t c = .ok s) :
    Reads u (xs ++ [c]) s :=
  hr.append (Reads.single ((step_of_endsAs h ht hc).trans hs))

theorem reads_quote (hk : awaitsValue k) (c : Bool) (s : String) :
    Reads ⟨k, .value c, res⟩ (quote s).toList (filled k res (.str s)) := by
  have hs : (quote s).toList = '"' :: (s.toList.flatMap escape ++ ['"']) := by
    simp [quote, quoteChars]
  have hp : putQuoted ⟨k, .quoted ⟨s.toList.reverse, none, true⟩, res⟩
      ⟨s.toList.reverse, none, true⟩
      = filled k res (.str s) := by
    rw [← put_eq_filled res hk (.quoted ⟨s.toList.reverse, none, true⟩)]
    cases k with
    | nil => simp [putQuoted, Quoted.settle, Quoted.text]
    | cons f k =>
      cases f with
      | obj => cases hk
      | arr | member => simp [putQuoted, Quoted.settle, Quoted.text]
  rw [hs, ← hp]
  exact Reads.cons rfl (reads_quoted k res s)

theorem reads_name (done : List (String × Json)) (c : Bool) (n : String) :
    Reads ⟨.obj done true :: k, .name c, res⟩ ((quote n).toList ++ [':'])
      ⟨.member n done true :: k, .value false, res⟩ := by
  have hs : (quote n).toList = '"' :: (n.toList.flatMap escape ++ ['"']) := by
    simp [quote, quoteChars]
  have hp : putQuoted ⟨.obj done true :: k, .quoted ⟨n.toList.reverse, none, true⟩, res⟩
      ⟨n.toList.reverse, none, true⟩ = ⟨.member n done true :: k, .colon, res⟩ := by
    simp [putQuoted, Quoted.settle, Quoted.text]
  have ho := reads_quoted (.obj done true :: k) res n
  rw [hp] at ho
  rw [hs]
  exact Reads.append (Reads.cons (s := ⟨.obj done true :: k, .quoted {}, res⟩) rfl ho)
    (Reads.single rfl)

theorem reads_word (hk : awaitsValue k) (v : Json) (d : Char) (ds : List Char) :
    Reads ⟨k, .word (d :: ds) v, res⟩ (d :: ds) (filled k res v) := by
  induction ds generalizing d with
  | nil =>
    apply Reads.single
    simp only [step, ↓reduceIte, List.isEmpty_nil, put_eq_filled res hk]
  | cons e ds ih =>
    refine Reads.cons ?_ (ih e)
    simp only [step, ↓reduceIte, List.isEmpty_cons, Bool.false_eq_true]

theorem step_closes_items (hk : awaitsValue k) (vs : List Json) :
    step ⟨.arr (vs.reverse ++ []) :: k, .after, res⟩ ']' = .ok (filled k res (.arr vs)) := by
  rw [← put_eq_filled res hk .after, List.append_nil]
  show Except.ok (put ⟨k, .after, res⟩ (.arr vs.reverse.reverse)) = _
  rw [List.reverse_reverse]

theorem step_closes_members (hk : awaitsValue k) (ms : List (String × Json)) :
    step ⟨.obj (ms.reverse ++ []) true :: k, .after, res⟩ '\x7d'
      = .ok (filled k res (.obj ms)) := by
  rw [← put_eq_filled res hk .after, List.append_nil]
  show Except.ok (put ⟨k, .after, res⟩ (.obj ms.reverse.reverse)) = _
  rw [List.reverse_reverse]

theorem reads_int (hk : awaitsValue k) (c : Bool) (n : Int) (h : -2 ^ 63 ≤ n ∧ n < 2 ^ 64) :
    ∃ r, Reads ⟨k, .value c, res⟩ (toString n).toList r ∧ Pending r (filled k res (.int n)) := by
  cases n with
  | ofNat n =>
    have hs : (toString (Int.ofNat n)).toList = Nat.toDigits 10 n := Nat.toList_repr
    rw [hs]
    exact reads_nat k res hk n (by simpa using h.2) c
  | negSucc n =>
    have hs : (toString (Int.negSucc n)).toList = '-' :: Nat.toDigits 10 (n + 1) := by
      rw [show toString (Int.negSucc n) = "-" ++ Nat.repr (n + 1) from rfl, String.toList_append,
        Nat.toList_repr]
      rfl
    rw [hs]
    exact reads_neg k res hk (n + 1) (by omega) (by omega) c

mutual

/-- The compact text of a value leaves the reader with that value where the text began. -/
theorem reads_compact (v : Json) (hv : plain v) (k : List Frame) (hk : awaitsValue k)
    (res : Option Json) (c : Bool) :
    ∃ r, Reads ⟨k, .value c, res⟩ v.compact.toList r ∧ EndsAs r (filled k res v) := by
  match v with
  | .null => exact ⟨_, Reads.cons rfl (reads_word k res hk .null 'u' ['l', 'l']), .inl rfl⟩
  | .bool true =>
    exact ⟨_, Reads.cons rfl (reads_word k res hk (.bool true) 'r' ['u', 'e']), .inl rfl⟩
  | .bool false =>
    exact ⟨_, Reads.cons rfl (reads_word k res hk (.bool false) 'a' ['l', 's', 'e']), .inl rfl⟩
  | .int n =>
    obtain ⟨r, hr, hp⟩ := reads_int k res hk c n (by simpa [plain] using hv)
    exact ⟨r, hr, .inr hp⟩
  | .str s => exact ⟨_, reads_quote k res hk c s, .inl rfl⟩
  | .arr [] =>
    refine ⟨filled k res (.arr []), ?_, .inl rfl⟩
    refine Reads.cons (s := ⟨.arr [] :: k, .value true, res⟩) rfl (Reads.single ?_)
    rw [← put_eq_filled res hk (.value true)]
    rfl
  | .arr (v :: vs) =>
    obtain ⟨r, hr, hs⟩ := reads_items (v :: vs) (by simpa [plain] using hv) (by simp) [] k res true
    refine ⟨_, ?_, .inl rfl⟩
    have h := Reads.cons (c := '[') (r := ⟨k, .value c, res⟩) rfl
      (Reads.endsAs_cons hr hs rfl rfl (step_closes_items k res hk (v :: vs)))
    simpa [compact] using h
  | .obj [] =>
    refine ⟨filled k res (.obj []), ?_, .inl rfl⟩
    refine Reads.cons (s := ⟨.obj [] true :: k, .name true, res⟩) rfl (Reads.single ?_)
    rw [← put_eq_filled res hk (.name true)]
    rfl
  | .obj (m :: ms) =>
    obtain ⟨r, hr, hs⟩ :=
      reads_members (m :: ms) (by simpa [plain] using hv) (by simp) [] k res true
    refine ⟨_, ?_, .inl rfl⟩
    have h := Reads.cons (c := '\x7b') (r := ⟨k, .value c, res⟩) rfl
      (Reads.endsAs_cons hr hs rfl rfl (step_closes_members k res hk (m :: ms)))
    simpa [compact] using h
  | .real _ | .unreadable => cases hv
termination_by sizeOf v

theorem reads_items (vs : List Json) (hv : plainItems vs) (hn : vs ≠ []) (done : List Json)
    (k : List Frame) (res : Option Json) (c : Bool) :
    ∃ r, Reads ⟨.arr done :: k, .value c, res⟩ (compactItems vs).toList r ∧
      EndsAs r ⟨.arr (vs.reverse ++ done) :: k, .after, res⟩ := by
  match vs with
  | [v] =>
    simp only [plainItems, Bool.and_true] at hv
    exact reads_compact v hv (.arr done :: k) rfl res c
  | v :: w :: vs =>
    rw [plainItems, Bool.and_eq_true] at hv
    obtain ⟨r, hr, hs⟩ := reads_compact v hv.1 (.arr done :: k) rfl res c
    obtain ⟨t, ht, hz⟩ := reads_items (w :: vs) hv.2 (by simp) (v :: done) k res false
    refine ⟨t, ?_, by simpa using hz⟩
    have hc := Reads.endsAs_cons (c := ',') hr hs rfl rfl rfl
    have h := hc.append ht
    simpa [compactItems] using h
termination_by sizeOf vs

theorem reads_members (ms : List (String × Json)) (hv : plainMembers ms) (hn : ms ≠ [])
    (done : List (String × Json)) (k : List Frame) (res : Option Json) (c : Bool) :
    ∃ r, Reads ⟨.obj done true :: k, .name c, res⟩ (compactMembers ms).toList r ∧
      EndsAs r ⟨.obj (ms.reverse ++ done) true :: k, .after, res⟩ := by
  match ms with
  | [(n, v)] =>
    simp only [plainMembers, Bool.and_true] at hv
    obtain ⟨r, hr, hs⟩ := reads_compact v hv (.member n done true :: k) rfl res false
    refine ⟨r, ?_, hs⟩
    have h := (reads_name k res done c n).append hr
    simpa [compactMembers] using h
  | (n, v) :: m :: ms =>
    rw [plainMembers, Bool.and_eq_true] at hv
    obtain ⟨r, hr, hs⟩ := reads_compact v hv.1 (.member n done true :: k) rfl res false
    obtain ⟨t, ht, hz⟩ := reads_members (m :: ms) hv.2 (by simp) ((n, v) :: done) k res false
    refine ⟨t, ?_, by simpa using hz⟩
    have hc := Reads.endsAs_cons (c := ',') hr hs rfl rfl rfl
    have h := (reads_name k res done c n).append (hc.append ht)
    simpa [compactMembers] using h
termination_by sizeOf ms

end

end Values

end Reader

open Reader in
theorem read_compact (v : Json) (hv : plain v) : read v.compact = .ok v := by
  obtain ⟨r, hr, hs⟩ := reads_compact v hv [] rfl none false
  have hf : (filled [] none v).finish = .ok v := rfl
  unfold read
  rw [show v.compact.toList.foldlM step {} = .ok r from hr]
  exact (finish_of_endsAs hs rfl).trans hf

theorem read?_compact (v : Json) (hv : plain v) : read? v.compact = some v := by
  rw [read?, read_compact v hv]
  rfl

end TokenCourier.Json
