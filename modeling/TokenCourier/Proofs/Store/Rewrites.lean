import TokenCourier.Proofs.Store.Shared

namespace TokenCourier

namespace Store

variable {st : Store} {r : Request} {a b : Address} {s : Secret} {text : String}

theorem post_written (st : Store) (hm : r.method = .post) (hb : r.body = s.toJson.compact) :
    (st.serve r).2 = st ∨ ∃ b, r.target? = some b ∧ st.objects b = none ∧
      (st.serve r).2 = st.put b (some (st.kept s).compact) := by
  cases hp : Collection.ofPath? r.path with
  | none => exact .inl (by simp [serve, hm, hp])
  | some c =>
    have hr := Json.read?_compact _ (Secret.plain_toJson s)
    have hs : st.serve r = st.create c s.toJson.compact := by simp only [serve, hm, hp, hb]
    rw [hs, create, hr, Option.bind_some]
    cases hn : s.toJson.name? with
    | none => exact .inl rfl
    | some name =>
      dsimp only [Option.map_some]
      cases ho : st.objects ⟨c, name⟩ with
      | some text => exact .inl rfl
      | none =>
        refine .inr ⟨⟨c, name⟩, by simp [Request.target?, hm, hp, hb, hr, hn], ho, ?_⟩
        simp only [write, Secret.stamped_toJson]
        rfl

theorem put_written (st : Store) (hm : r.method = .put) (hb : r.body = s.toJson.compact) :
    (st.serve r).2 = st ∨ ∃ a, r.target? = some a ∧
      (st.serve r).2 = st.put a (some (st.kept s).compact) := by
  cases hp : Address.ofPath? r.path with
  | none => exact .inl (by simp [serve, hm, hp])
  | some a =>
    have hr := Json.read?_compact _ (Secret.plain_toJson s)
    have hs : st.serve r = st.replace a s.toJson.compact := by simp only [serve, hm, hp, hb]
    rw [hs, replace, hr]
    cases ho : st.objects a with
    | none => exact .inl rfl
    | some text =>
      dsimp only
      split
      · exact .inl rfl
      · split
        · exact .inl rfl
        · refine .inr ⟨a, by simp [Request.target?, hm, hp], ?_⟩
          simp only [write, Secret.stamped_toJson]
          rfl

/-- What is deleted is gone, and deleting it once more changes nothing. -/
theorem delete_again (st : Store) (hm : r.method = .delete) :
    ((st.serve r).2.serve r).2 = (st.serve r).2 := by
  cases hp : Address.ofPath? r.path with
  | none => simp [serve, hm, hp]
  | some a =>
    have hs : ∀ st : Store, st.serve r = st.delete a := fun st => by simp only [serve, hm, hp]
    rw [hs, hs]
    cases ho : st.objects a with
    | none =>
      have hd : (st.delete a).2 = st := by simp only [delete, ho]
      rw [hd, hd]
    | some text =>
      have hd : (st.delete a).2 = st.put a none := by simp only [delete, ho]
      have hn : (st.put a none).objects a = none := if_pos rfl
      rw [hd]
      simp only [delete, hn]

theorem put_objects_self (st : Store) (a : Address) (text : Option String) :
    (st.put a text).objects a = text :=
  if_pos rfl

def shown (st : Store) (a : Address) :
    Option (Option (Option (List (String × String)) × Option (List (String × String)))) :=
  (st.find Secret.decode? a).map fun o => o.map fun s => (s.metadata.labels, s.stringData)

theorem shown_rewritten {m n : String} (ha : st.objects b = some (s.versioned n).toJson.compact) :
    (st.put b (some (s.versioned m).toJson.compact)).shown a = st.shown a := by
  by_cases hab : a = b
  · subst hab
    rw [shown, find, put_objects_self, shown, find, ha]
    simp only [Option.map_some, Secret.readback]
    rfl
  · rw [shown, find, put_objects_of_ne st _ hab, shown, find]

end Store

end TokenCourier
