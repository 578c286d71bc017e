import TokenCourier.Proofs.Api.Dialogue
import TokenCourier.Proofs.Store.Answers

namespace TokenCourier

namespace Answer

variable {α : Type} {f : Json → Option α} {a : Answer} {x : α}

/-- The answer is no error, and `f` reads `x` from its text. -/
def DecodesTo (a : Answer) (f : Json → Option α) (x : α) : Prop :=
  ∃ r t, a = .ok r ∧ r.isError = false ∧ Utf8.decode r.body = .ok t ∧
    (Json.read? t).bind f = some x

theorem text_ok_iff {t : String} :
    a.text = .ok t ↔ ∃ r, a = .ok r ∧ r.isError = false ∧ Utf8.decode r.body = .ok t := by
  cases a with
  | error e => simp [text]
  | ok r =>
    cases hd : Utf8.decode r.body with
    | error e => simp [text, Response.text, hd]
    | ok u => cases he : r.isError <;> simp [text, Response.text, hd, he]

theorem object_error {e : ClientError} (h : a.text = .error e) : a.object f = .error e := by
  rw [object, h]
  rfl

theorem object_of_text {t : String} (h : a.text = .ok t) :
    a.object f = match (Json.read? t).bind f with
      | some x => .ok x
      | none => .error .undecodable := by
  rw [object, h]
  rfl

theorem object_ok (h : a.object f = .ok x) :
    ∃ t, a.text = .ok t ∧ (Json.read? t).bind f = some x := by
  cases ht : a.text with
  | error e => cases (object_error ht).symm.trans h
  | ok t =>
    cases hj : (Json.read? t).bind f with
    | none => simp [object, ht, Except.bind, hj] at h
    | some y =>
      obtain rfl : y = x := by simpa [object, ht, Except.bind, hj] using h
      exact ⟨t, rfl, hj⟩

theorem object_ok_iff : a.object f = .ok x ↔ a.DecodesTo f x := by
  constructor
  · intro h
    obtain ⟨t, ht, hf⟩ := object_ok h
    obtain ⟨r, ha, he, hd⟩ := text_ok_iff.mp ht
    exact ⟨r, t, ha, he, hd, hf⟩
  · rintro ⟨r, t, ha, he, hd, hf⟩
    rw [object_of_text (text_ok_iff.mpr ⟨r, ha, he, hd⟩), hf]

theorem reply_decodesTo {status : Nat} {v : Json} (hs : ¬ (400 ≤ status ∧ status < 600))
    (hp : v.plain = true) (hf : f v = some x) : (Store.reply status v).DecodesTo f x := by
  obtain ⟨r, ha, he, hd⟩ := text_ok_iff.mp (text_ok hs v.compact)
  refine ⟨r, v.compact, ha, he, hd, ?_⟩
  rw [Json.read?_compact v hp]
  exact hf

end Answer

section Transcripts

variable {σ α : Type} {serve : σ → Server → Request → Answer × σ} {st : σ}

/-- The answers are those of the servers, one after the other. -/
def AnsweredIn (serve : σ → Server → Request → Answer × σ) : σ → List Asked → Prop
  | _, [] => True
  | st, q :: qs =>
    q.answer = (serve st q.server q.request).1 ∧
      AnsweredIn serve (serve st q.server q.request).2 qs

theorem transcript_answered {α : Type} (x : Exchange α) (st : σ) :
    AnsweredIn serve st (calls (x.transcript serve st)) := by
  induction x generalizing st with
  | done a => trivial
  | log l next ih => exact ih st
  | ask s r next ih => exact ⟨rfl, ih _ _⟩

theorem AnsweredIn.left {qs ps : List Asked} (h : AnsweredIn serve st (qs ++ ps)) :
    AnsweredIn serve st qs := by
  induction qs generalizing st with
  | nil => trivial
  | cons q qs ih => exact ⟨h.1, ih h.2⟩

def served (serve : σ → Server → Request → Answer × σ) (st : σ) (qs : List Asked) : σ :=
  qs.foldl (fun st q => (serve st q.server q.request).2) st

theorem run_served (x : Exchange α) (st : σ) :
    (x.run serve st).2.2 = served serve st (calls (x.transcript serve st)) := by
  induction x generalizing st with
  | done a => rfl
  | log l next ih => exact ih st
  | ask s r next ih => exact ih _ _

end Transcripts

namespace Exchange

variable {α β σ : Type}

theorem run_ask (serve : σ → Server → Request → Answer × σ) (s : Server) (r : Request)
    (next : Answer → Exchange α) (st : σ) :
    let rest := (next (serve st s r).1).run serve (serve st s r).2
    (Exchange.ask s r next).run serve st = (rest.1, .sent s r :: rest.2.1, rest.2.2) :=
  rfl

/-- A run may be cut at any place that its answers lead to. -/
theorem RunsTo.run {serve : σ → Server → Request → Answer × σ} {st : σ} {x y : Exchange α}
    {ss : List Said} (h : x.RunsTo ss y) (ha : AnsweredIn serve st (calls ss)) :
    let rest := y.run serve (served serve st (calls ss))
    x.run serve st = (rest.1, ss.map Said.entry ++ rest.2.1, rest.2.2) := by
  induction h generalizing st with
  | refl x => rfl
  | log hn ih =>
    have hr := ih ha
    rw [Exchange.run, hr]
    rfl
  | @ask s r next _ _ a hn ih =>
    obtain ⟨hq, ha⟩ := ha
    have hr := ih ha
    have hq : (serve st s r).1 = a := hq.symm
    rw [run_ask, hq, hr]
    rfl

/-- Programs that get the same answers come to the same result. -/
theorem RunsTo.determined {x : Exchange α} {ss ts : List Said} {a b : α}
    (hx : x.RunsTo ss (.done a))
    (hy : x.RunsTo ts (.done b)) (h : (calls ss).map (·.answer) = (calls ts).map (·.answer)) :
    a = b := by
  induction x generalizing ss ts with
  | done c =>
    cases hx
    cases hy
    rfl
  | log l next ih =>
    cases hx with
    | log hx =>
      cases hy with
      | log hy => exact ih hx hy h
  | ask s r next ih =>
    cases hx with
    | ask c hx =>
      cases hy with
      | ask d hy =>
        obtain ⟨hc, hr⟩ := List.cons.inj h
        obtain rfl : c = d := hc
        exact ih c hx hy hr

def stateless (f : Server → Request → Answer) (st : Unit) (s : Server) (r : Request) :
    Answer × Unit := (f s r, st)

theorem run_sequence (serve : σ → Server → Request → Answer × σ) (x : Exchange α)
    (f : α → Exchange β) (st : σ) :
    let first := x.run serve st
    let second := (f first.1).run serve first.2.2
    (x >>= f).run serve st = (second.1, first.2.1 ++ second.2.1, second.2.2) := by
  change (x.bind f).run serve st = _
  induction x generalizing st with
  | done a => rfl
  | log l next ih => simp only [bind, run, ih, List.cons_append]
  | ask s r next ih => simp only [bind, run, ih, List.cons_append]

theorem run_call {serve : σ → Server → Request → Answer × σ} {s : Server}
    {req : Except RequestFault Request} {r : Request} (hr : req = .ok r)
    (read : Answer → Except ClientError α) (st : σ) :
    (call s req read).run serve st = (read (serve st s r).1, [.sent s r], (serve st s r).2) := by
  rw [hr]
  rfl

variable {answer : Request → Answer} {x : Exchange α} {f : α → Exchange β} {a : α} {b : β}

def result (answer : Request → Answer) (x : Exchange α) : α :=
  (x.run (stateless fun _ => answer) ()).1

theorem result_bind (x : Exchange α) (f : α → Exchange β) :
    result answer (x >>= f) = result answer (f (result answer x)) :=
  run_bind _ x f ()

theorem result_ok {ε δ : Type} {x : Exchange (Except ε α)}
    {k : Except ε α → Exchange (Except δ β)} {b : β}
    (hk : ∀ e b, result answer (k (.error e)) ≠ .ok b) (h : result answer (x >>= k) = .ok b) :
    ∃ a, result answer x = .ok a ∧ result answer (k (.ok a)) = .ok b := by
  rw [result_bind] at h
  cases hx : result answer x with
  | error e =>
    rw [hx] at h
    exact absurd h (hk e b)
  | ok a =>
    rw [hx] at h
    exact ⟨a, rfl, h⟩

/-- At a cluster that answers so, the program returns `a`, asks nobody else and logs nothing. -/
def Returns (answer : Request → Answer) (x : Exchange α) (a : α) : Prop :=
  ∃ rs : List Request, x.run (stateless fun _ => answer) () = (a, rs.map (.sent .cluster), ())

theorem Returns.result (h : Returns answer x a) : Exchange.result answer x = a := by
  obtain ⟨rs, hx⟩ := h
  rw [Exchange.result, hx]

theorem returns_done (a : α) : Returns answer (.done a) a := ⟨[], rfl⟩

theorem Returns.bind (hx : Returns answer x a) (hf : Returns answer (f a) b) :
    Returns answer (x >>= f) b := by
  obtain ⟨rs, hx⟩ := hx
  obtain ⟨qs, hf⟩ := hf
  refine ⟨rs ++ qs, ?_⟩
  rw [run_sequence, hx]
  simp only [hf, List.map_append]

end Exchange

end TokenCourier
