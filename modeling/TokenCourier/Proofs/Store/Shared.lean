import TokenCourier.Proofs.Api.Dialogue
import TokenCourier.Proofs.Store.Writes

namespace TokenCourier

/-- Something that happens while a program runs: it asks something, or another writer saves or
removes an object of the hub. -/
inductive Happening where
  | asked (q : Asked)
  | saved (a : Address) (text : String)
  | removed (a : Address)

namespace Happening

def asked? : Happening → Option Asked
  | .asked q => some q
  | _ => none

theorem asked_of_asked? {x : Happening} {q : Asked} (h : x.asked? = some q) : x = .asked q := by
  cases x with
  | asked p =>
    cases h
    rfl
  | saved | removed => cases h

def Writes (a : Address) : Happening → Prop
  | .asked _ => False
  | .saved b _ | .removed b => b = a

instance (a : Address) (x : Happening) : Decidable (x.Writes a) :=
  match x with
  | .asked _ => isFalse nofun
  | .saved b _ | .removed b => inferInstanceAs (Decidable (b = a))

def Foreign : Happening → Prop
  | .asked q => q.server = .cluster
  | _ => True

end Happening

/-- What a request is about. A new object is named in the request's body. -/
def Request.target? (r : Request) : Option Address :=
  match r.method with
  | .post => (Collection.ofPath? r.path).bind fun c =>
      ((Json.read? r.body).bind Json.name?).map (⟨c, ·⟩)
  | _ => Address.ofPath? r.path

namespace Store

def follow (st : Store) : Happening → Store
  | .asked q =>
    match q.server with
    | .cluster => st
    | .hub => (st.serve q.request).2
  | .saved a text => st.put a (some text)
  | .removed a => st.put a none

/-- The store answers truthfully, and every write gives its object a version of its own. -/
def Admits (st : Store) : Happening → Prop
  | .asked q => q.server = .hub → q.answer = (st.serve q.request).1
  | .saved _ text => (Json.read? text).bind Json.version? = some (toString st.revision)
  | .removed a => st.objects a ≠ none

def after (st : Store) (hs : List Happening) : Store := hs.foldl follow st

def AdmitsAll : Store → List Happening → Prop
  | _, [] => True
  | st, x :: hs => st.Admits x ∧ (st.follow x).AdmitsAll hs

instance (st : Store) (x : Happening) : Decidable (st.Admits x) :=
  match x with
  | .asked q => inferInstanceAs (Decidable (q.server = .hub → q.answer = (st.serve q.request).1))
  | .saved _ text =>
    inferInstanceAs (Decidable ((Json.read? text).bind Json.version? = some (toString st.revision)))
  | .removed a => inferInstanceAs (Decidable (st.objects a ≠ none))

instance instDecidableAdmitsAll : (st : Store) → (hs : List Happening) → Decidable (st.AdmitsAll hs)
  | _, [] => isTrue trivial
  | st, x :: hs =>
    have := instDecidableAdmitsAll (st.follow x) hs
    inferInstanceAs (Decidable (st.Admits x ∧ (st.follow x).AdmitsAll hs))

/-- What is kept at an address was given its version at `n` or later. -/
structure Since (st : Store) (n : Nat) (a : Address) : Prop where
  le : n ≤ st.revision
  later : ∀ text, st.objects a = some text → ∃ k, n ≤ k ∧ k < st.revision ∧
    (Json.read? text).bind Json.version? = some (toString k)

def Versioned (st : Store) : Prop := ∀ a, st.Since 0 a

variable {st : Store} {hs gs : List Happening} {x : Happening} {a b : Address} {n k : Nat}

theorem after_append (st : Store) (hs gs : List Happening) :
    st.after (hs ++ gs) = (st.after hs).after gs :=
  List.foldl_append

theorem after_concat (st : Store) (hs : List Happening) (x : Happening) :
    st.after (hs ++ [x]) = (st.after hs).follow x := by
  rw [after_append]
  rfl

theorem admitsAll_append :
    st.AdmitsAll (hs ++ gs) ↔ st.AdmitsAll hs ∧ (st.after hs).AdmitsAll gs := by
  induction hs generalizing st with
  | nil => simp [AdmitsAll, after]
  | cons x hs ih => simp [AdmitsAll, ih, after, and_assoc]

theorem put_objects_of_ne (st : Store) (text : Option String) (h : b ≠ a) :
    (st.put a text).objects b = st.objects b :=
  if_neg h

theorem follow_cluster {q : Asked} (h : q.server = .cluster) : st.follow (.asked q) = st := by
  simp only [follow, h]

theorem follow_hub {q : Asked} (h : q.server = .hub) :
    st.follow (.asked q) = (st.serve q.request).2 := by
  simp only [follow, h]

section Others

theorem follow_objects (hx : x.Foreign) (hw : ¬ x.Writes a) :
    (st.follow x).objects a = st.objects a := by
  cases x with
  | asked q => rw [follow_cluster hx]
  | saved b text => exact put_objects_of_ne st _ (Ne.symm hw)
  | removed b => exact put_objects_of_ne st _ (Ne.symm hw)

theorem revision_le_follow (hx : x.Foreign) : st.revision ≤ (st.follow x).revision := by
  cases x with
  | asked q => rw [follow_cluster hx]
  | saved b text | removed b => exact Nat.le_succ _

theorem Since.mono (h : st.Since n a) (hk : k ≤ n) : st.Since k a where
  le := Nat.le_trans hk h.le
  later text ht := by
    obtain ⟨i, hi, hr⟩ := h.later text ht
    exact ⟨i, Nat.le_trans hk hi, hr⟩

/-- A write of an object with a new version, or of none, leaves no older version anywhere. -/
theorem Since.put {text : Option String} (h : st.Since n a)
    (hb : ∀ t, text = some t →
      (Json.read? t).bind Json.version? = some (toString st.revision)) :
    (st.put b text).Since n a := by
  refine ⟨Nat.le_succ_of_le h.le, fun t ht => ?_⟩
  by_cases hab : a = b
  · subst hab
    exact ⟨st.revision, h.le, Nat.lt_succ_self _, hb t (by simpa [Store.put] using ht)⟩
  · rw [put_objects_of_ne st text hab] at ht
    obtain ⟨k, hn, hk, hv⟩ := h.later t ht
    exact ⟨k, hn, Nat.lt_succ_of_lt hk, hv⟩

theorem Since.follow (h : st.Since n a) (hx : x.Foreign) (ha : st.Admits x) :
    (st.follow x).Since n a := by
  cases x with
  | asked q => rwa [follow_cluster hx]
  | saved b text =>
    refine h.put fun t ht => ?_
    cases ht
    exact ha
  | removed b => exact h.put nofun

theorem since_written (hw : x.Writes a) (ha : st.Admits x) :
    (st.follow x).Since st.revision a := by
  cases x with
  | asked q => cases hw
  | saved b text =>
    cases hw
    refine ⟨Nat.le_succ _, fun t ht => ⟨st.revision, le_rfl, Nat.lt_succ_self _, ?_⟩⟩
    have ht : text = t := by simpa [Store.follow, put] using ht
    exact ht ▸ ha
  | removed b =>
    cases hw
    exact ⟨Nat.le_succ _, fun t ht => by simp [Store.follow, put] at ht⟩

variable (hf : ∀ x ∈ hs, x.Foreign)

include hf

theorem after_objects (hw : ∀ x ∈ hs, ¬ x.Writes a) : (st.after hs).objects a = st.objects a := by
  induction hs generalizing st with
  | nil => rfl
  | cons x hs ih =>
    obtain ⟨hx, hf⟩ := List.forall_mem_cons.mp hf
    obtain ⟨hxw, hw⟩ := List.forall_mem_cons.mp hw
    exact (ih hf hw).trans (follow_objects hx hxw)

theorem Since.after (h : st.Since n a) (ha : st.AdmitsAll hs) : (st.after hs).Since n a := by
  induction hs generalizing st with
  | nil => exact h
  | cons x hs ih =>
    obtain ⟨hx, hf⟩ := List.forall_mem_cons.mp hf
    exact ih hf (h.follow hx ha.1) ha.2

/-- What was written meanwhile has a version that was not there before. -/
theorem since_after (ha : st.AdmitsAll hs) (hw : ∃ x ∈ hs, x.Writes a) :
    (st.after hs).Since st.revision a := by
  induction hs generalizing st with
  | nil => simp at hw
  | cons x hs ih =>
    obtain ⟨hx, hf⟩ := List.forall_mem_cons.mp hf
    simp only [List.mem_cons, exists_eq_or_imp] at hw
    change ((st.follow x).after hs).Since st.revision a
    obtain hxw | hw := hw
    · exact (since_written hxw ha.1).after hf ha.2
    · exact (ih hf ha.2 hw).mono (revision_le_follow hx)

end Others

theorem Versioned.after (hv : st.Versioned) (hf : ∀ x ∈ hs, x.Foreign) (ha : st.AdmitsAll hs) :
    (st.after hs).Versioned :=
  fun a => (hv a).after hf ha

section Requests

variable {r : Request} {t : String}

theorem refusal_error (code : Nat) (hc : 400 ≤ code ∧ code < 600) (reason message : String) :
    ∃ e, (refusal code reason message).text = .error e :=
  ⟨_, Answer.text_refusal hc reason message⟩

theorem get_there (hm : r.method = .get) (ht : (st.serve r).1.text = .ok t) :
    ∃ a, r.target? = some a ∧ st.objects a = some t := by
  cases hp : Address.ofPath? r.path with
  | none =>
    obtain ⟨e, he⟩ := refusal_error 404 (by decide) "NotFound" _
    simp only [serve, hm, hp, noResource] at ht
    cases he.symm.trans ht
  | some a =>
    refine ⟨a, by simpa [Request.target?, hm] using hp, ?_⟩
    simp only [serve, hm, hp, read] at ht
    cases ho : st.objects a with
    | none =>
      obtain ⟨e, he⟩ := refusal_error 404 (by decide) "NotFound" _
      simp only [ho, notFound] at ht
      cases he.symm.trans ht
    | some text =>
      simp only [ho] at ht
      cases (Answer.text_ok (by decide) text).symm.trans ht
      rfl

theorem get_error {e : ClientError} (hm : r.method = .get) (ht : (st.serve r).1.text = .error e) :
    r.target?.bind st.objects = none := by
  cases hp : Address.ofPath? r.path with
  | none => simp [Request.target?, hm, hp]
  | some a =>
    cases ho : st.objects a with
    | none => simp [Request.target?, hm, hp, ho]
    | some text =>
      simp only [serve, hm, hp, read, ho] at ht
      cases (Answer.text_ok (by decide) text).symm.trans ht

theorem post_cases (st : Store) (hm : r.method = .post) :
    (∃ a, r.target? = some a ∧ st.objects a = none) ∨
      (st.serve r).2 = st ∧ ∃ e, (st.serve r).1.text = .error e := by
  cases hp : Collection.ofPath? r.path with
  | none =>
    refine .inr ?_
    rw [serve, hm, hp]
    exact ⟨rfl, refusal_error _ (by decide) _ _⟩
  | some c =>
    have hs : st.serve r = st.create c r.body := by simp only [serve, hm, hp]
    rw [hs, create]
    cases hb : (Json.read? r.body).bind fun v => v.name?.map (v, ·) with
    | none => exact .inr ⟨rfl, refusal_error _ (by decide) _ _⟩
    | some w =>
      obtain ⟨v, name⟩ := w
      obtain ⟨w, hw, hn⟩ := Option.bind_eq_some_iff.mp hb
      obtain ⟨name, hn, h⟩ := Option.map_eq_some_iff.mp hn
      cases h
      cases ho : st.objects ⟨c, name⟩ with
      | none => exact .inl ⟨⟨c, name⟩, by simp [Request.target?, hm, hp, hw, hn], ho⟩
      | some text =>
        refine .inr ?_
        dsimp only
        rw [ho]
        exact ⟨rfl, refusal_error _ (by decide) _ _⟩

theorem put_outdated {v : Json} (hm : r.method = .put) (ha : r.target? = some a)
    (hb : Json.read? r.body = some v) (hv : v.version? = some (toString k)) (hs : st.Since n a)
    (hk : k < n) : (st.serve r).2 = st ∧ ∃ e, (st.serve r).1.text = .error e := by
  have hp : Address.ofPath? r.path = some a := by simpa [Request.target?, hm] using ha
  have hr : st.serve r = st.replace a r.body := by simp only [serve, hm, hp]
  rw [hr, replace, hb]
  cases ho : st.objects a with
  | none => exact ⟨rfl, refusal_error _ (by decide) _ _⟩
  | some text =>
    obtain ⟨i, hi, -, ht⟩ := hs.later text ho
    have hne : toString k ≠ toString i := fun h => by
      have hki : k = i := Nat.repr_inj.mp h
      omega
    dsimp only
    rw [ht, hv]
    by_cases hn : v.name? ≠ some a.name
    · rw [if_pos hn]
      exact ⟨rfl, refusal_error _ (by decide) _ _⟩
    · rw [if_neg hn, if_pos ⟨Option.some_ne_none _, fun h => hne (Option.some.inj h)⟩]
      exact ⟨rfl, refusal_error _ (by decide) _ _⟩

end Requests

end Store

end TokenCourier
