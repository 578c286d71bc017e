import Mathlib.Data.List.Basic
import TokenCourier.Text.CharSet

namespace TokenCourier.CharSet

variable {p : Char → Bool} {c : Char}

theorem parts_ne_nil (cs : List Char) : parts p cs ≠ [] := by
  cases cs with
  | nil => simp [parts]
  | cons c cs =>
    rw [parts]
    split <;> simp

theorem parts_cons (hc : p c = false) (cs : List Char) :
    ∃ w ws, parts p cs = w :: ws ∧ parts p (c :: cs) = (c :: w) :: ws := by
  obtain ⟨w, ws, hw⟩ := List.exists_cons_of_ne_nil (parts_ne_nil (p := p) cs)
  exact ⟨w, ws, hw, by rw [parts, hc, hw]⟩

theorem parts_separator (hc : p c = true) (cs : List Char) :
    parts p (c :: cs) = [] :: parts p cs := by
  rw [parts, hc]

theorem parts_append (hc : p c = true) (xs ys : List Char) :
    parts p (xs ++ c :: ys) = parts p xs ++ parts p ys := by
  induction xs with
  | nil => exact parts_separator hc ys
  | cons x xs ih =>
    cases hx : p x with
    | true =>
      rw [List.cons_append, parts_separator hx, parts_separator hx, ih]
      rfl
    | false =>
      obtain ⟨w, ws, hw, hp⟩ := parts_cons hx xs
      obtain ⟨v, vs, hv, hq⟩ := parts_cons hx (xs ++ c :: ys)
      rw [ih, hw, List.cons_append, List.cons.injEq] at hv
      obtain ⟨rfl, rfl⟩ := hv
      rw [List.cons_append, hq, hp]
      rfl

theorem flatten_parts (cs : List Char) : (parts p cs).flatten = cs.filter (!p ·) := by
  induction cs with
  | nil => rfl
  | cons c cs ih =>
    cases hc : p c with
    | true =>
      rw [parts_separator hc]
      simpa [hc] using ih
    | false =>
      obtain ⟨w, ws, hw, hp⟩ := parts_cons hc cs
      rw [hw] at ih
      rw [hp]
      simpa [hc] using ih

theorem mem_parts {cs l : List Char} (hl : l ∈ parts p cs) (hc : c ∈ l) : c ∈ cs ∧ ¬ p c := by
  have hf : c ∈ cs.filter (!p ·) := by
    rw [← flatten_parts]
    exact List.mem_flatten_of_mem hl hc
  simpa using hf

theorem parts_map {f : Char → Char} (hf : ∀ c, p (f c) = p c) (cs : List Char) :
    parts p (cs.map f) = (parts p cs).map (List.map f) := by
  induction cs with
  | nil => rfl
  | cons c cs ih =>
    rw [List.map_cons]
    cases hc : p c with
    | true =>
      rw [parts_separator ((hf c).trans hc), parts_separator hc, ih]
      rfl
    | false =>
      obtain ⟨w, ws, hw, hp⟩ := parts_cons hc cs
      obtain ⟨v, vs, hv, hq⟩ := parts_cons ((hf c).trans hc) (cs.map f)
      rw [ih, hw, List.map_cons, List.cons.injEq] at hv
      obtain ⟨rfl, rfl⟩ := hv
      rw [hq, hp, List.map_cons, List.map_cons]

end TokenCourier.CharSet
