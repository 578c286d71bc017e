import TokenCourier.Kube.Infrastructure
import TokenCourier.Proofs.Json.Amended
import TokenCourier.Sync.Token

namespace TokenCourier

def tokenPath : List String := ["metadata", "annotations", tokenValue]

def redactNote (n : String) (m : String × String) : String × String :=
  if m.1 = n then (m.1, Json.redactText m.2) else m

open Json

theorem strings?_cons (m : String × Json) (ms : List (String × Json)) :
    strings? (.obj (m :: ms))
      = m.2.string?.bind fun s => (strings? (.obj ms)).map ((m.1, s) :: ·) := by
  simp only [strings?, map?, members?, Option.bind_some, List.mapM_cons, Option.bind_eq_bind]
  cases m.2.string? with
  | none => rfl
  | some s => exact Option.map_eq_bind.symm

theorem strings?_redact (n : String) :
    Commutes (amend [n] redact) strings? (List.map (redactNote n)) where
  null := amend_null (onText_null _) [n]
  read v := by
    cases v with
    | obj ms =>
      change strings? (.obj (ms.map (amendMember n redact))) = _
      induction ms with
      | nil => rfl
      | cons m ms ih =>
        obtain ⟨k, v⟩ := m
        rw [List.map_cons, strings?_cons, strings?_cons, ih]
        by_cases hk : k = n
        · cases hv : v.string? <;> cases strings? (.obj ms) <;>
            simp [amendMember, hk, hv, string?_onText, redactNote]
        · cases hv : v.string? <;> cases strings? (.obj ms) <;>
            simp [amendMember, hk, hv, redactNote]
    | _ => rfl

namespace ObjectMeta

def redacted (n : String) (m : ObjectMeta) : ObjectMeta :=
  { m with annotations := m.annotations.map (List.map (redactNote n)) }

theorem getD_redacted (n : String) (o : Option ObjectMeta) :
    (o.map (redacted n)).getD {} = (o.getD {}).redacted n := by
  cases o <;> rfl

theorem decode?_redact (n : String) :
    Commutes (amend ["annotations", n] redact) decode? (redacted n) where
  null := amend_null (onText_null _) _
  read v := by
    cases v with
    | obj ms =>
      have ho : ∀ {β : Type} {k : String} (read : Json → Option β), k ≠ "annotations" →
          optional k read (ms.map (amendMember "annotations" (amend [n] redact)))
            = optional k read ms := fun read hk => optional_amend hk read
      have hl : ∀ {β : Type} {k : String} (read : Json → Option β), k ≠ "annotations" →
          last? k read (ms.map (amendMember "annotations" (amend [n] redact)))
            = last? k read ms := fun read hk => last?_amend_other hk read
      simp [amend, decode?, members?, ho, hl, last?_amend (strings?_redact n), redacted,
        Option.map_bind, Option.bind_map, Function.comp_def]
    | _ => rfl

end ObjectMeta

namespace Secret

def redacted (n : String) (s : Secret) : Secret := { s with metadata := s.metadata.redacted n }

theorem decode?_redact (n : String) :
    Commutes (amend ["metadata", "annotations", n] redact) decode? (redacted n) where
  null := amend_null (onText_null _) _
  read v := by
    cases v with
    | obj ms =>
      simp (disch := decide) [amend, decode?, members?, optional_amend, last?_amend_other,
        ofType_amend, last?_amend (ObjectMeta.decode?_redact n), ObjectMeta.getD_redacted, redacted,
        Option.map_bind, Option.bind_map, Function.comp_def]
    | _ => rfl

variable {n k : String}

theorem annotation?_redacted (s : Secret) :
    (s.redacted n).annotation? k
      = if k = n then (s.annotation? k).map redactText else s.annotation? k := by
  have hp : (fun m : String × String => m.1 == k) ∘ redactNote n = fun m => m.1 == k := by
    funext m
    by_cases hm : m.1 = n <;> simp [redactNote, hm]
  have ha : (s.redacted n).metadata.annotations.getD []
      = (s.metadata.annotations.getD []).map (redactNote n) := by
    cases h : s.metadata.annotations <;> simp [redacted, ObjectMeta.redacted, h]
  rw [annotation?, ha, ← List.map_reverse, List.find?_map, hp, annotation?]
  cases h : (s.metadata.annotations.getD []).reverse.find? (·.1 == k) with
  | none => simp
  | some m =>
    have hm : m.1 = k := by simpa using List.find?_some h
    by_cases hk : k = n <;> simp [redactNote, hm, hk]

theorem token?_redacted (s : Secret) :
    (s.redacted tokenValue).token? = s.token?.map redactText := by
  rw [token?, annotation?_redacted, if_pos rfl, token?]
  cases s.annotation? tokenValue with
  | none => rfl
  | some t => by_cases ht : t = "" <;> simp [Option.filter, ht, redactText]

end Secret

namespace ServiceAccount

def redacted (n : String) (sa : ServiceAccount) : ServiceAccount :=
  { sa with metadata := sa.metadata.redacted n }

theorem decode?_redact (n : String) :
    Commutes (amend ["metadata", "annotations", n] redact) decode? (redacted n) where
  null := amend_null (onText_null _) _
  read v := by
    cases v with
    | obj ms =>
      simp (disch := decide) [amend, decode?, members?, optional_amend, last?_amend_other,
        ofType_amend, last?_amend (ObjectMeta.decode?_redact n), ObjectMeta.getD_redacted, redacted,
        Option.map_bind, Option.bind_map, Function.comp_def]
    | _ => rfl

end ServiceAccount

namespace Infrastructure

/-- Of an infrastructure only the status counts, which no annotation changes. -/
theorem status_redact (n : String) (v : Json) :
    (decode? (amend ["metadata", "annotations", n] redact v)).map (·.status)
      = (decode? v).map (·.status) := by
  cases v with
  | obj ms =>
    have hm : ∀ o : Option Json,
        required? ObjectMeta.decode? (o.map (amend ["annotations", n] redact))
          = (required? ObjectMeta.decode? o).map (ObjectMeta.redacted n) := by
      rintro (_ | v)
      · rfl
      · exact (ObjectMeta.decode?_redact n).read v
    simp [amend, decode?, slots?_obj, slot?_amend, hm, Option.map_bind, Option.bind_map,
      Option.bind_assoc]
  | _ => rfl

end Infrastructure

end TokenCourier
