import TokenCourier.Proofs.Store.Answers
import TokenCourier.Proofs.Sync.Discipline

namespace TokenCourier

def Answer.Gone (a : Answer) : Prop := ∃ e, a.text = .error e ∧ e.isNotFound

/-- Reason and code of the reply agree on whether something is absent. A reply that describes no
failure has its status for a code, and no reason. -/
def Response.Consistent (r : Response) : Prop :=
  match Utf8.decode r.body with
  | .error _ => True
  | .ok t =>
    match (Json.read? t).bind ApiFailure.decode? with
    | some f => f.reason = "NotFound" ↔ f.code = 404
    | none => r.status ≠ 404

section Replies

variable {a : Answer} {e : ClientError} {r : Response}

theorem absent_of_text (h : a.text = .error e) : a.Absent ↔ e.saysNotFound := by
  simp [Answer.Absent, h]

theorem gone_of_text (h : a.text = .error e) : a.Gone ↔ e.isNotFound := by
  simp [Answer.Gone, h]

theorem Response.text_error (hr : r.isError) : ∃ e, r.text = .error e := by
  rw [text]
  split
  · exact ⟨_, rfl⟩
  · exact ⟨_, if_pos hr⟩

theorem consistent_iff (hr : r.isError) :
    r.Consistent ↔ (Answer.Absent (.ok r) ↔ Answer.Gone (.ok r)) := by
  unfold Response.Consistent
  cases hd : Utf8.decode r.body with
  | error f =>
    have ht : Answer.text (.ok r) = .error (.notText f) := by simp [Answer.text, Response.text, hd]
    simp [absent_of_text ht, gone_of_text ht, ClientError.saysNotFound, ClientError.isNotFound]
  | ok t =>
    have ht : Answer.text (.ok r) = .error (.api (.ofText r.status t)) := by
      simp [Answer.text, Response.text, hd, hr]
    rw [absent_of_text ht, gone_of_text ht]
    cases hj : (Json.read? t).bind ApiFailure.decode? with
    | some f => simp [ApiFailure.ofText, hj, ClientError.saysNotFound, ClientError.isNotFound]
    | none => simp [ApiFailure.ofText, hj, ClientError.saysNotFound, ClientError.isNotFound]

end Replies

namespace Exchange

variable {cluster key : ObjectKey} {qs ps : List Asked} {v : Except SyncError Outcome} {s : Secret}
  {q : Asked} {e : ClientError}

theorem Course.account_error (h : Course cluster key (q :: ps) v) (he : q.answer.text = .error e) :
    Undertook .delete cluster v ↔ q.answer.Absent := by
  generalize hqs : q :: ps = qs at h
  cases h with
  | unread hx hf =>
    obtain rfl | ⟨p, rfl, -, hn⟩ := hx.read_error hf
    · cases hqs
    · cases hqs
      simp [hn, Undertook]
  | departs hx hn hd =>
    obtain ⟨p, rfl, -, ha⟩ := hx.read_absent hn
    cases hqs
    exact iff_of_true (undertook_departure _) ha
  | unresolved hx ho | publishes hx ho =>
    obtain rfl := absentAsNone_some ho
    obtain ⟨p, rfl, -, hp⟩ := hx.read_ok
    cases hqs
    rw [Answer.object_error he] at hp
    cases hp

theorem Delivery.secret_error (h : Delivery cluster s qs v) (hq : q ∈ qs)
    (hm : q.request.method = .get) (he : q.answer.text = .error e) :
    Undertook .create cluster v ↔ q.answer.Absent := by
  have hw : ∀ {m : Method} {us : List Asked}, m ≠ .get →
      (us = [] ∨ ∃ w, us = [w] ∧ w.server = .hub ∧ w.request.method = m) → q ∉ us := by
    rintro m us hne (rfl | ⟨w, rfl, -, rfl⟩) hq
    · cases hq
    · cases List.mem_singleton.mp hq
      exact hne hm
  cases h with
  | unread hx hf =>
    obtain rfl | ⟨p, rfl, -, hn⟩ := hx.read_error hf
    · cases hq
    · cases List.mem_singleton.mp hq
      simp [hn, Undertook]
  | creates hx hn hy =>
    obtain ⟨p, rfl, -, ha⟩ := hx.read_absent hn
    have hy := hw (by decide) (hy.written fun _ h => (Request.build_ok h).1)
    cases List.mem_singleton.mp ((List.mem_append.mp hq).resolve_right hy)
    exact iff_of_true (undertook_result _ _) ha
  | replaces hx ho hy =>
    obtain rfl := absentAsNone_some ho
    obtain ⟨p, rfl, -, hp⟩ := hx.read_ok
    have hy := hw (by decide) (hy.written fun _ h => (Request.buildNamed_ok h).1)
    cases List.mem_singleton.mp ((List.mem_append.mp hq).resolve_right hy)
    rw [Answer.object_error he] at hp
    cases hp

theorem Course.secret_error (h : Course cluster key qs v) (hq : q ∈ qs) (hs : q.server = .hub)
    (hm : q.request.method = .get) (he : q.answer.text = .error e) :
    Undertook .create cluster v ↔ q.answer.Absent := by
  have hc : ∀ {us : List Asked}, (∀ p ∈ us, p.server = .cluster) → q ∉ us := by
    intro us hu hq
    have hq := hu q hq
    rw [hs] at hq
    cases hq
  cases h with
  | unread hx hf => exact absurd hq (hc fun p hp => (hx.gets p hp).server)
  | departs hx hn hd =>
    obtain hq | hq := List.mem_append.mp hq
    · exact absurd hq (hc fun p hp => (hx.gets p hp).server)
    · obtain rfl | ⟨w, rfl, -, hw⟩ := hd.written fun _ h => (Request.buildNamed_ok h).1
      · cases hq
      · cases List.mem_singleton.mp hq
        cases hm.symm.trans hw
  | unresolved hx ho ht =>
    obtain hq | hq := List.mem_append.mp hq
    · exact absurd hq (hc fun p hp => (hx.gets p hp).server)
    · exact absurd hq (hc fun p hp => (ht.gets p hp).1)
  | publishes hx ho ht hi hd =>
    have hp := hc fun p hp => ((prepared hx ho ht hi).reads p hp).1
    exact hd.secret_error ((List.mem_append.mp hq).resolve_left hp) hm he

theorem Course.deletion_error (h : Course cluster key qs v) (hq : q ∈ qs)
    (hm : q.request.method = .delete) (he : q.answer.text = .error e) :
    v = .ok .deleted ↔ q.answer.Gone := by
  obtain ⟨p, hqs, hp⟩ := (Disciplined.of_course h).deletes q hq hm
  cases h with
  | unread hx hf => obtain rfl | ⟨p, rfl, -⟩ := hx.read_error hf <;> cases hqs
  | departs hx hn hd =>
    obtain ⟨p, rfl, -⟩ := hx.read_absent hn
    cases hd with
    | unbuilt => cases hqs
    | answered a hr =>
      cases hqs
      rw [gone_of_text he, Answer.deleted, Answer.object_error he, departure]
      split <;> simp [*, Write.result]
  | unresolved hx ho =>
    obtain rfl := absentAsNone_some ho
    obtain ⟨g, rfl, hg, hp'⟩ := hx.read_ok
    exact absurd hp ((accountPresent_of_object hg hp').not_absent hqs)
  | publishes hx ho ht hi =>
    exact absurd hp (((prepared hx ho ht hi).accountPresent.append _).not_absent hqs)

end Exchange

/-- How each request of a reconciliation takes an error reply that may mean absence. -/
theorem error_reply_taken {r : Response} {cluster key : ObjectKey} {said : List Said}
    {v : Except SyncError Outcome} (hr : r.isError)
    (h : (Exchange.reconcile cluster key).RunsTo said (.done v)) :
    (∀ q ps, calls said = q :: ps → q.answer = .ok r →
      (Undertook .delete cluster v ↔ Answer.Absent (.ok r))) ∧
    (∀ q ∈ calls said, q.server = .hub → q.request.method = .get → q.answer = .ok r →
      (Undertook .create cluster v ↔ Answer.Absent (.ok r))) ∧
    (∀ q ∈ calls said, q.request.method = .delete → q.answer = .ok r →
      (v = .ok .deleted ↔ Answer.Gone (.ok r))) ∧
    (r.Consistent ↔ (Answer.Absent (.ok r) ↔ Answer.Gone (.ok r))) := by
  have hc := Exchange.reconcile_yields cluster key said v h
  obtain ⟨e, he⟩ := r.text_error hr
  have ht : ∀ {q : Asked}, q.answer = .ok r → q.answer.text = .error e := by
    intro q ha
    rw [ha]
    exact he
  refine ⟨?_, ?_, ?_, consistent_iff hr⟩
  · intro q ps hq ha
    rw [hq] at hc
    rw [← ha]
    exact hc.account_error (ht ha)
  · intro q hq hs hm ha
    rw [← ha]
    exact hc.secret_error hq hs hm (ht ha)
  · intro q hq hm ha
    rw [← ha]
    exact hc.deletion_error hq hm (ht ha)

def replying (cluster hub : Response) (u : Unit) (s : Server) (_ : Request) : Answer × Unit :=
  match s with
  | .cluster => (.ok cluster, u)
  | .hub => (.ok hub, u)

def described : Response := ⟨404, (Store.failure 404 "NotFound" "").compact.toUTF8⟩

def unrouted : Response := ⟨404, "404 page not found".toUTF8⟩

theorem described_absence_taken :
    let key : ObjectKey := ⟨"agent", "addon"⟩
    let cluster : ObjectKey := ⟨"prod", "fleet"⟩
    let v := ((Exchange.reconcile cluster key).run (replying described described) ()).1
    described.isError ∧ v = .ok .deleted ∧ (v = .ok .deleted ↔ Answer.Gone (.ok described)) ∧
      (Undertook .delete cluster v ↔ Answer.Absent (.ok described)) := by
  intro key cluster v
  have hg := Exchange.transcript_runsTo (replying described described)
    (Exchange.reconcile cluster key) ()
  have ha : (calls ((Exchange.reconcile cluster key).transcript (replying described described)
      ())).map (fun q => (q.request.method, q.answer))
      = [(.get, .ok described), (.delete, .ok described)] := by decide +kernel
  have he : described.isError := by decide
  obtain ⟨hr, -, hd, -⟩ := error_reply_taken he hg
  obtain ⟨p, q, hs, hp, hq⟩ : ∃ p q, calls ((Exchange.reconcile cluster key).transcript
      (replying described described) ()) = [p, q] ∧
      (p.request.method, p.answer) = (.get, .ok described) ∧
      (q.request.method, q.answer) = (.delete, .ok described) := by
    simpa [List.map_eq_cons_iff, and_assoc] using ha
  refine ⟨he, by decide +kernel, ?_, hr p [q] hs (Prod.mk.inj hp).2⟩
  exact hd q (by simp [hs]) (Prod.mk.inj hq).1 (Prod.mk.inj hq).2

/-- A read of the account takes the reply for an error, a deletion takes it for absence. -/
theorem unrouted_divides :
    let key : ObjectKey := ⟨"agent", "addon"⟩
    let cluster : ObjectKey := ⟨"prod", "fleet"⟩
    let read := ((Exchange.reconcile cluster key).run (replying unrouted described) ()).1
    let deletion := ((Exchange.reconcile cluster key).run (replying described unrouted) ()).1
    unrouted.isError ∧
      read = .error (.client (.api ⟨"404 Not Found", "\"404 page not found\"",
        "Failed to parse error data", 404⟩)) ∧
      deletion = .ok .deleted ∧
      ¬ (Undertook .delete cluster read ↔ deletion = .ok .deleted) := by
  intro key cluster read deletion
  have hr : read = .error (.client (.api ⟨"404 Not Found", "\"404 page not found\"",
      "Failed to parse error data", 404⟩)) := by decide +kernel
  have hd : deletion = .ok .deleted := by decide +kernel
  refine ⟨by decide, hr, hd, fun h => ?_⟩
  have hu := h.mpr hd
  simp [Undertook, hr] at hu

end TokenCourier
