import Mathlib
import TokenCourier.Url.Domain

namespace TokenCourier

variable {c : Char} {cs : List Char}

/-- The ranges of a set that is written as characters, not as a string, can be computed. -/
theorem CharSet.ofText_ofList (cs : List Char) :
    ofText (String.ofList cs) = ⟨(words cs).map range⟩ := by
  rw [ofText, String.toList_ofList]

set_option maxRecDepth 20000 in
theorem Composites.marks_beyond : ∀ r ∈ marks.ranges, 128 ≤ r.1 := by
  have hm : marks = _ := CharSet.ofText_ofList _
  have ha : (marks.ranges.all fun r => decide (128 ≤ r.1)) = true := by
    rw [hm]
    decide +kernel
  simpa using ha

theorem Composites.not_mark (hc : c.toNat < 128) : marks.contains c = false := by
  rw [CharSet.contains, List.any_eq_false]
  intro r hr
  have hb := marks_beyond r hr
  simp only [Bool.and_eq_true, decide_eq_true_eq, not_and]
  omega

namespace Composed

theorem split_ascii (hc : c.toNat < 128) : split depth c = [c] := by
  have hp : parts? c = none := if_pos (by omega)
  rw [depth, split, hp]

theorem markClass_ascii (hc : c.toNat < 128) : markClass c = 0 := if_pos (by omega)

theorem ordered_ascii (h : ∀ c ∈ cs, c.toNat < 128) : ordered cs = cs.map (·, 0) := by
  have hf : ∀ (xs : List (Char × Nat)) done, (∀ x ∈ xs, x.2 = 0) →
      xs.foldl (fun done x => insertMark x done) done = xs.reverse ++ done := by
    intro xs done hx
    induction xs generalizing done with
    | nil => rfl
    | cons x xs ih =>
      obtain ⟨hz, hx⟩ := List.forall_mem_cons.mp hx
      have hi : insertMark x done = x :: done := by
        cases done <;> simp [insertMark, hz]
      rw [List.foldl_cons, hi, ih _ hx, List.reverse_cons, List.append_assoc]
      rfl
  have hm : (cs.map fun c => (c, markClass c)) = cs.map (·, 0) :=
    List.map_congr_left fun c hc => by rw [markClass_ascii (h c hc)]
  rw [ordered, hm, hf _ _ (by simp), List.append_nil, List.reverse_reverse]

theorem flush_step (j : Joiner) (hc : c.toNat < 128) : (j.step (c, 0)).flush = c :: j.flush := by
  have hp : ∀ b, pair? b c = none := fun b => if_pos (by omega)
  have hb : j.base.bind (pair? · c) = none := by
    cases j.base <;> simp [hp]
  have hs : j.step (c, 0) = ⟨j.flush, some c, []⟩ := by
    simp only [Joiner.step, hb, ite_self, ↓reduceIte]
  rw [hs]
  rfl

theorem compose_ascii (h : ∀ c ∈ cs, c.toNat < 128) : compose cs = cs := by
  have hs : cs.flatMap (split depth) = cs := by
    rw [List.flatMap_congr fun c hc => split_ascii (h c hc)]
    exact List.flatMap_singleton' cs
  have hf : ∀ (xs : List Char) (j : Joiner), (∀ c ∈ xs, c.toNat < 128) →
      ((xs.map (·, 0)).foldl Joiner.step j).flush = xs.reverse ++ j.flush := by
    intro xs j hx
    induction xs generalizing j with
    | nil => rfl
    | cons x xs ih =>
      obtain ⟨hc, hx⟩ := List.forall_mem_cons.mp hx
      rw [List.map_cons, List.foldl_cons, ih _ hx, flush_step j hc, List.reverse_cons,
        List.append_assoc]
      rfl
  rw [compose, hs, ordered_ascii h, hf cs {} h, List.reverse_append, List.reverse_reverse]
  rfl

end Composed

namespace Domain

theorem classOf_ascii (hc : c.toNat < 128) : classOf c ≠ .right ∧ classOf c ≠ .arabicNumber := by
  rw [classOf, if_pos hc, asciiClass]
  split_ifs <;> decide

theorem joinersFit_ascii (before : List Char) (h : ∀ c ∈ cs, c.toNat < 128) :
    joinersFit before cs := by
  induction cs generalizing before with
  | nil => rfl
  | cons c cs ih =>
    obtain ⟨hc, hcs⟩ := List.forall_mem_cons.mp h
    have hne : ∀ d : Char, 128 ≤ d.toNat → c ≠ d := fun d hd he => by subst he; omega
    rw [joinersFit, if_neg (hne _ (by decide)), if_neg (hne _ (by decide)), Bool.true_and]
    exact ih _ hcs

end Domain

end TokenCourier
