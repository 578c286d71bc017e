import TokenCourier.Proofs.Json.Readback

namespace TokenCourier.Json

namespace Reader

def between : Mode → Bool
  | .value _ | .name _ | .colon | .after => true
  | _ => false

theorem structural_blank (r : Reader) {c : Char} (hc : blank c) : r.structural c = .ok r := by
  rw [structural, if_pos hc]

theorem step_blank {r : Reader} {c : Char} (hr : between r.mode) (hc : blank c) :
    step r c = .ok r := by
  have hs : step r c = r.structural c := by
    unfold step
    split <;> first | rfl | simp_all [between]
  rw [hs, structural_blank r hc]

theorem reads_blanks {r : Reader} (hr : between r.mode) {cs : List Char}
    (hc : ∀ c ∈ cs, blank c) : Reads r cs r := by
  induction cs with
  | nil => exact Reads.nil r
  | cons c cs ih =>
    obtain ⟨hb, hcs⟩ := List.forall_mem_cons.mp hc
    exact Reads.cons (step_blank hr hb) (ih hcs)

theorem newline_toList (level : Nat) :
    (newline level).toList = '\n' :: List.replicate (2 * level) ' ' := by
  simp [newline]

theorem reads_newline {r : Reader} (hr : between r.mode) (level : Nat) :
    Reads r (newline level).toList r := by
  apply reads_blanks hr
  rw [newline_toList]
  refine List.forall_mem_cons.mpr ⟨rfl, fun c hc => ?_⟩
  rw [List.eq_of_mem_replicate hc]
  rfl

/-- A line break ends the value before it, a number as well. -/
theorem EndsAs.newline {r t : Reader} (h : EndsAs r t) (ht : t.mode = .after) (level : Nat) :
    Reads r (newline level).toList t := by
  have hb : between t.mode := by rw [ht]; rfl
  obtain rfl | ⟨p, cs, hm, hp, rfl⟩ := h
  · exact reads_newline hb level
  · have hs : step r '\n' = .ok (r.put (numberValue cs.reverse)) := by
      have hn : p.next? '\n' = .ok none := by obtain rfl | rfl := hp <;> rfl
      unfold step
      rw [hm]
      simp only [hn]
      exact structural_blank (r.put (numberValue cs.reverse)) (c := '\n') rfl
    rw [newline_toList]
    apply Reads.cons hs
    apply reads_blanks hb
    intro c hc
    rw [List.eq_of_mem_replicate hc]
    rfl

section Containers

variable {k : List Frame} {res : Option Json}

theorem reads_closing {r s t u : Reader} {c : Char} {cs : List Char} (hr : Reads u cs r)
    (h : EndsAs r t) (ht : t.mode = .after) (hc : step t c = .ok s) (level : Nat) :
    Reads u (cs ++ ((newline level).toList ++ [c])) s :=
  hr.append ((h.newline ht level).append (Reads.single hc))

theorem reads_label (done : List (String × Json)) (c : Bool) (n : String) :
    Reads ⟨.obj done true :: k, .name c, res⟩ ((quote n).toList ++ [':', ' '])
      ⟨.member n done true :: k, .value false, res⟩ := by
  have hn := reads_name k res done c n
  have hb : step ⟨.member n done true :: k, .value false, res⟩ ' '
      = .ok ⟨.member n done true :: k, .value false, res⟩ := step_blank rfl rfl
  have h := hn.append (Reads.single hb)
  rwa [List.append_assoc] at h

end Containers

mutual

/-- As `reads_compact`, with line breaks between the parts. -/
theorem reads_pretty (v : Json) (hv : plain v) (level : Nat) (k : List Frame) (hk : awaitsValue k)
    (res : Option Json) (c : Bool) :
    ∃ r, Reads ⟨k, .value c, res⟩ (v.prettyAt level).toList r ∧ EndsAs r (filled k res v) := by
  match v with
  | .null | .bool _ | .int _ | .str _ => exact reads_compact _ hv k hk res c
  | .arr [] => exact reads_compact (.arr []) hv k hk res c
  | .obj [] => exact reads_compact (.obj []) hv k hk res c
  | .arr (v :: vs) =>
    obtain ⟨r, hr, hs⟩ := reads_prettyItems (v :: vs) (by simpa [plain] using hv) (by simp)
      (level + 1) [] k res true
    have h := Reads.cons (c := '[') (r := ⟨k, .value c, res⟩) rfl
      (reads_closing hr hs rfl (step_closes_items k res hk (v :: vs)) level)
    exact ⟨_, by simpa [prettyAt] using h, .inl rfl⟩
  | .obj (m :: ms) =>
    obtain ⟨r, hr, hs⟩ := reads_prettyMembers (m :: ms) (by simpa [plain] using hv) (by simp)
      (level + 1) [] k res true
    have h := Reads.cons (c := '\x7b') (r := ⟨k, .value c, res⟩) rfl
      (reads_closing hr hs rfl (step_closes_members k res hk (m :: ms)) level)
    exact ⟨_, by simpa [prettyAt] using h, .inl rfl⟩
  | .real _ | .unreadable => cases hv
termination_by sizeOf v

theorem reads_prettyItems (vs : List Json) (hv : plainItems vs) (hn : vs ≠ []) (level : Nat)
    (done : List Json) (k : List Frame) (res : Option Json) (c : Bool) :
    ∃ r, Reads ⟨.arr done :: k, .value c, res⟩ (prettyItems level vs).toList r ∧
      EndsAs r ⟨.arr (vs.reverse ++ done) :: k, .after, res⟩ := by
  have hl : Reads ⟨.arr done :: k, .value c, res⟩ (newline level).toList
      ⟨.arr done :: k, .value c, res⟩ := reads_newline rfl level
  match vs with
  | [v] =>
    simp only [plainItems, Bool.and_true] at hv
    obtain ⟨r, hr, hs⟩ := reads_pretty v hv level (.arr done :: k) rfl res c
    have h := hl.append hr
    exact ⟨r, by simpa [prettyItems] using h, hs⟩
  | v :: w :: vs =>
    rw [plainItems, Bool.and_eq_true] at hv
    obtain ⟨r, hr, hs⟩ := reads_pretty v hv.1 level (.arr done :: k) rfl res c
    obtain ⟨t, ht, hz⟩ := reads_prettyItems (w :: vs) hv.2 (by simp) level (v :: done) k res false
    have h := (Reads.endsAs_cons (c := ',') (hl.append hr) hs rfl rfl rfl).append ht
    exact ⟨t, by simpa [prettyItems] using h, by simpa using hz⟩
termination_by sizeOf vs

theorem reads_prettyMembers (ms : List (String × Json)) (hv : plainMembers ms) (hn : ms ≠ [])
    (level : Nat) (done : List (String × Json)) (k : List Frame) (res : Option Json) (c : Bool) :
    ∃ r, Reads ⟨.obj done true :: k, .name c, res⟩ (prettyMembers level ms).toList r ∧
      EndsAs r ⟨.obj (ms.reverse ++ done) true :: k, .after, res⟩ := by
  have hl : Reads ⟨.obj done true :: k, .name c, res⟩ (newline level).toList
      ⟨.obj done true :: k, .name c, res⟩ := reads_newline rfl level
  match ms with
  | [(n, v)] =>
    simp only [plainMembers, Bool.and_true] at hv
    obtain ⟨r, hr, hs⟩ := reads_pretty v hv level (.member n done true :: k) rfl res false
    have h := (hl.append (reads_label done c n)).append hr
    exact ⟨r, by simpa [prettyMembers] using h, hs⟩
  | (n, v) :: m :: ms =>
    rw [plainMembers, Bool.and_eq_true] at hv
    obtain ⟨r, hr, hs⟩ := reads_pretty v hv.1 level (.member n done true :: k) rfl res false
    obtain ⟨t, ht, hz⟩ :=
      reads_prettyMembers (m :: ms) hv.2 (by simp) level ((n, v) :: done) k res false
    have hm := (hl.append (reads_label done c n)).append hr
    have h := (Reads.endsAs_cons (c := ',') hm hs rfl rfl rfl).append ht
    exact ⟨t, by simpa [prettyMembers] using h, by simpa using hz⟩
termination_by sizeOf ms

end

end Reader

open Reader in
theorem read?_pretty (v : Json) (hv : plain v) : read? v.pretty = some v := by
  obtain ⟨r, hr, hs⟩ := reads_pretty v hv 0 [] rfl none false
  have hf : (filled [] none v).finish = .ok v := rfl
  have hp : read v.pretty = .ok v := by
    unfold read
    rw [show v.pretty.toList.foldlM step {} = .ok r from hr]
    exact (finish_of_endsAs hs rfl).trans hf
  rw [read?, hp]
  rfl

end TokenCourier.Json
