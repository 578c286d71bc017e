import Mathlib
import TokenCourier.Api.Request
import TokenCourier.Kube.Infrastructure

namespace TokenCourier

def nameChar (c : Char) : Bool :=
  ('a' ≤ c && c ≤ 'z') || ('0' ≤ c && c ≤ '9') || c = '-' || c = '.'

/-- The part of the rules for object names that is used here. -/
structure ValidName (s : String) : Prop where
  nonempty : s ≠ ""
  short : s.length ≤ 253
  chars : ∀ c ∈ s.toList, nameChar c

instance (s : String) : Decidable (ValidName s) :=
  decidable_of_iff (s ≠ "" ∧ s.length ≤ 253 ∧ s.toList.all nameChar)
    ⟨fun h => ⟨h.1, h.2.1, by simpa using h.2.2⟩, fun h => ⟨h.1, h.2, by simpa using h.3⟩⟩

structure ObjectKey.Valid (k : ObjectKey) : Prop where
  name : ValidName k.name
  ns : ValidName k.ns

namespace Target

/-- A character that stands for itself in a path. -/
def Literal (c : Char) : Prop := pathChar c ∧ c ≠ '?' ∧ c ≠ '#'

instance (c : Char) : Decidable (Literal c) :=
  inferInstanceAs (Decidable (pathChar c ∧ c ≠ '?' ∧ c ≠ '#'))

theorem toNat_le_of_le {c d : Char} (h : c ≤ d) : c.toNat ≤ d.toNat := h

theorem literal_of_nameChar {c : Char} (hc : nameChar c) : Literal c := by
  have hne : ∀ d : Char, ¬ nameChar d → c ≠ d := fun d hd he => hd (he ▸ hc)
  refine ⟨?_, hne '?' (by decide), hne '#' (by decide)⟩
  simp only [nameChar, Bool.or_eq_true, Bool.and_eq_true, decide_eq_true_eq] at hc
  obtain ((⟨hl, hu⟩ | ⟨hl, hu⟩) | rfl) | rfl := hc
  · simp [pathChar, hl, hu]
  · have hl := toNat_le_of_le hl
    have hu := toNat_le_of_le hu
    have hr : 0x24 ≤ c.toNat ∧ c.toNat ≤ 0x3B :=
      ⟨Nat.le_trans (by decide) hl, Nat.le_trans hu (by decide)⟩
    simp [pathChar, hr]
  · decide
  · decide

theorem takeWhile_all {p : Char → Bool} {xs : List Char} (hx : ∀ x ∈ xs, p x) :
    xs.takeWhile p = xs := by
  simpa using hx

theorem parse_literal {path : String} (hp : ∀ c ∈ path.toList, Literal c)
    (hl : path.utf8ByteSize ≤ limit) : parse path = .ok (path, "") := by
  have hf : path.toList.takeWhile (· != '#') = path.toList :=
    takeWhile_all fun c hc => by simpa using (hp c hc).2.2
  have hs : path.toList.takeWhile (· != '?') = path.toList :=
    takeWhile_all fun c hc => by simpa using (hp c hc).2.1
  have hd : path.toList.dropWhile (· != '?') = [] := by
    simpa using fun c hc => (hp c hc).2.1
  have ha : path.toList.all pathChar = true := by
    simpa using fun c hc => (hp c hc).1
  simp [parse, Nat.not_lt.mpr hl, hf, hs, hd, ha]

theorem parse_query {path query : String} (hp : ∀ c ∈ path.toList, Literal c)
    (hq : ∀ c ∈ query.toList, queryChar c ∧ c ≠ '#')
    (hl : (path ++ "?" ++ query).utf8ByteSize ≤ limit) :
    parse (path ++ "?" ++ query) = .ok (path, query) := by
  have ht : (path ++ "?" ++ query).toList = path.toList ++ '?' :: query.toList := by simp
  have hf : (path.toList ++ '?' :: query.toList).takeWhile (· != '#')
      = path.toList ++ '?' :: query.toList := by
    refine takeWhile_all fun c hc => ?_
    obtain hc | hc := List.mem_append.mp hc
    · simpa using (hp c hc).2.2
    · obtain rfl | hc := List.mem_cons.mp hc
      · decide
      · simpa using (hq c hc).2
  have hs : ∀ c ∈ path.toList, (c != '?') = true := fun c hc => by simpa using (hp c hc).2.1
  have hw : (path.toList ++ '?' :: query.toList).takeWhile (· != '?') = path.toList := by
    rw [List.takeWhile_append_of_pos hs]
    simp
  have hd : (path.toList ++ '?' :: query.toList).dropWhile (· != '?') = '?' :: query.toList := by
    rw [List.dropWhile_append_of_pos hs]
    simp
  have ha : path.toList.all pathChar = true := by
    simpa using fun c hc => (hp c hc).1
  have hb : query.toList.all queryChar = true := by
    simpa using fun c hc => (hq c hc).1
  simp only [parse, Nat.not_lt.mpr hl, if_false, ht, hf, hw, hd, List.drop_one, List.tail_cons, ha,
    hb, Bool.and_self, if_true, String.ofList_toList]

/-- A text of at most so many bytes that stands for itself in a path. -/
structure Fits (n : Nat) (s : String) : Prop where
  literal : ∀ c ∈ s.toList, Literal c
  size : s.utf8ByteSize ≤ n

instance (n : Nat) (s : String) : Decidable (Fits n s) :=
  decidable_of_iff (s.toList.all Literal ∧ s.utf8ByteSize ≤ n)
    ⟨fun h => ⟨by simpa using h.1, h.2⟩, fun h => ⟨by simpa using h.1, h.2⟩⟩

theorem Fits.append {n k : Nat} {s t : String} (hs : Fits n s) (ht : Fits k t) :
    Fits (n + k) (s ++ t) where
  literal := by
    rw [String.toList_append]
    exact List.forall_mem_append.mpr ⟨hs.literal, ht.literal⟩
  size := by
    rw [String.utf8ByteSize_append]
    exact Nat.add_le_add hs.size ht.size

theorem ascii_of_nameChar {c : Char} (hc : nameChar c) : c.utf8Size = 1 := by
  have hle : ∀ d : Char, d.toNat ≤ 127 → c ≤ d → c.toNat ≤ 127 := fun d hd h =>
    Nat.le_trans (toNat_le_of_le h) hd
  rw [Char.utf8Size_eq_one_iff, UInt32.le_iff_toNat_le]
  simp only [nameChar, Bool.or_eq_true, Bool.and_eq_true, decide_eq_true_eq] at hc
  obtain ((⟨-, hu⟩ | ⟨-, hu⟩) | rfl) | rfl := hc
  · exact hle 'z' (by decide) hu
  · exact hle '9' (by decide) hu
  · decide
  · decide

theorem utf8ByteSize_of_nameChars {s : String} (hs : ∀ c ∈ s.toList, nameChar c) :
    s.utf8ByteSize = s.length := by
  induction s using String.push_induction with
  | empty => rfl
  | push s c ih =>
    rw [String.toList_push] at hs
    obtain ⟨hs, hc⟩ := List.forall_mem_append.mp hs
    have hz : c.utf8Size = 1 := ascii_of_nameChar (hc c (List.mem_singleton_self c))
    rw [String.utf8ByteSize_push, String.length_push, ih hs, hz]

end Target

open Target

theorem ValidName.fits {s : String} (hs : ValidName s) : Fits 253 s where
  literal c hc := literal_of_nameChar (hs.chars c hc)
  size := by
    rw [utf8ByteSize_of_nameChars hs.chars]
    exact hs.short

theorem Target.Fits.mono {n k : Nat} {s : String} (hs : Fits n s) (hk : n ≤ k) : Fits k s :=
  ⟨hs.literal, Nat.le_trans hs.size hk⟩

theorem secretsOf_fits {ns : String} (hn : ValidName ns) : Fits 300 (secretsOf ns) := by
  have hp : Fits 20 "/api/v1/namespaces/" := by decide
  have hb : Fits 1 "/" := by decide
  have hs : Fits 7 "secrets" := by decide
  exact (((hp.append hn.fits).append hb).append hs).mono (by decide)

theorem serviceAccountsOf_fits {ns : String} (hn : ValidName ns) :
    Fits 300 (serviceAccountsOf ns) := by
  have hp : Fits 20 "/api/v1/namespaces/" := by decide
  have hb : Fits 1 "/" := by decide
  have hs : Fits 15 "serviceaccounts" := by decide
  exact (((hp.append hn.fits).append hb).append hs).mono (by decide)

namespace Request

variable {n k : Nat} {collection name : String}

def managed : String := "&fieldManager=agent-token-sync"

theorem manager_eq : manager = "?" ++ managed := by decide

theorem managed_chars : ∀ c ∈ managed.toList, queryChar c ∧ c ≠ '#' := by
  have ha : managed.toList.all (fun c => queryChar c && c != '#') = true := by decide
  simpa using ha

theorem managed_size : managed.utf8ByteSize = 30 := by decide

theorem named_fits (hc : Fits n collection) (hn : Fits k name) :
    Fits (n + 1 + k) (collection ++ "/" ++ name) := by
  have hb : Fits 1 "/" := by decide
  exact (hc.append hb).append hn

theorem get_named (hc : Fits n collection) (hn : Fits k name) (hk : n + 1 + k ≤ limit)
    (hne : name ≠ "") :
    get collection name = .ok { method := .get, path := collection ++ "/" ++ name } := by
  have hf := named_fits hc hn
  rw [get, buildNamed, if_neg hne, build, String.append_empty,
    parse_literal hf.literal (Nat.le_trans hf.size hk)]
  rfl

theorem replace_named (hc : Fits n collection) (hn : Fits k name) (hk : n + 1 + k + 31 ≤ limit)
    (hne : name ≠ "") (body : String) :
    replace collection name body
      = .ok { method := .put, path := collection ++ "/" ++ name, query := managed, body } := by
  have hf := named_fits hc hn
  have hs := hf.size
  rw [replace, buildNamed, if_neg hne, build, manager_eq, ← String.append_assoc,
    parse_query hf.literal managed_chars]
  · rfl
  · rw [String.utf8ByteSize_append, String.utf8ByteSize_append, managed_size]
    have hq : "?".utf8ByteSize = 1 := by decide
    omega

theorem delete_named (hc : Fits n collection) (hn : Fits k name) (hk : n + 1 + k + 1 ≤ limit)
    (hne : name ≠ "") :
    delete collection name
      = .ok { method := .delete, path := collection ++ "/" ++ name, body := "\x7b\x7d" } := by
  have hf := named_fits hc hn
  have hs := hf.size
  have ht : collection ++ "/" ++ name ++ "?" = collection ++ "/" ++ name ++ "?" ++ "" := by simp
  rw [delete, buildNamed, if_neg hne, build, ht, parse_query hf.literal (by simp)]
  · rfl
  · rw [String.append_empty, String.utf8ByteSize_append]
    have hq : "?".utf8ByteSize = 1 := by decide
    omega

theorem create_in (hc : Fits n collection) (hk : n + 31 ≤ limit) (body : String) :
    create collection body
      = .ok { method := .post, path := collection, query := managed, body } := by
  have hs := hc.size
  rw [create, build, manager_eq, ← String.append_assoc, parse_query hc.literal managed_chars]
  · rfl
  · rw [String.utf8ByteSize_append, String.utf8ByteSize_append, managed_size]
    have hq : "?".utf8ByteSize = 1 := by decide
    omega

end Request

end TokenCourier
