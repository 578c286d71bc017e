import TokenCourier.Proofs.Kube.Written

namespace TokenCourier

namespace Json

def at? : List String → Json → Option Json
  | [], v => some v
  | n :: ns, v => (v.get? n).bind (at? ns)

def amendMember (n : String) (f : Json → Json) (m : String × Json) : String × Json :=
  if m.1 = n then (m.1, f m.2) else m

def amend : List String → (Json → Json) → Json → Json
  | [], f, v => f v
  | n :: ns, f, .obj ms => .obj (ms.map (amendMember n (amend ns f)))
  | _ :: _, _, v => v

def without (n : String) : Json → Json
  | .obj ms => .obj (ms.filter (·.1 != n))
  | v => v

def onText (f : String → String) : Json → Json
  | .str s => .str (f s)
  | v => v

def redactText (s : String) : String := if s = "" then "" else "*"

/-- A text of which only shows whether it is empty. -/
abbrev redact : Json → Json := onText redactText

/-- Changes the value that a text holds. A text that is printed otherwise is left as it is. -/
def amendText (print : Json → String) (f : Json → Json) (text : String) : String :=
  match read? text with
  | some v => if print v = text then print (f v) else text
  | none => text

variable {α : Type} {n k : String} {ns : List String} {f : Json → Json} {read : Json → Option α}
  {g : α → α} {ms : List (String × Json)}

theorem string?_onText (h : String → String) (v : Json) :
    (onText h v).string? = v.string?.map h := by
  cases v <;> rfl

/-- The reader commutes with the change `f` of its input: its result changes by `g`. -/
structure Commutes (f : Json → Json) (read : Json → Option α) (g : α → α) : Prop where
  null : ∀ v, f v = .null ↔ v = .null
  read : ∀ v, read (f v) = (read v).map g

theorem Commutes.agree {v w : Json} (h : Commutes f read g) (hvw : f v = f w) :
    (read v).map g = (read w).map g := by
  rw [← h.read, hvw, h.read]

theorem amend_null (hf : ∀ v, f v = .null ↔ v = .null) (ns : List String) (v : Json) :
    amend ns f v = .null ↔ v = .null := by
  cases ns with
  | nil => exact hf v
  | cons n ns => cases v <;> simp [amend]

theorem onText_null (h : String → String) (v : Json) : onText h v = .null ↔ v = .null := by
  cases v <;> simp [onText]

theorem amendText_print {print : Json → String} {v : Json} (hv : read? (print v) = some v) :
    amendText print f (print v) = print (f v) := by
  simp [amendText, hv]

def slot? (ms : List (String × Json)) (n : String) : Option (Option Json) :=
  match ms.filter (·.1 == n) with
  | [] => some none
  | [m] => some (some m.2)
  | _ => none

section Members

theorem every_amend (hk : k ≠ n) (p : Json → Bool) :
    every k p (ms.map (amendMember n f)) = every k p ms := by
  rw [every, List.all_map, every]
  congr 1
  funext m
  by_cases hm : m.1 = n
  · have hk : m.1 ≠ k := fun h => hk (h.symm.trans hm)
    simp [amendMember, hm, bne_iff_ne.mpr (hm ▸ hk)]
  · simp [amendMember, hm]

theorem optional_amend {β : Type} (hk : k ≠ n) (read : Json → Option β) :
    optional k read (ms.map (amendMember n f)) = optional k read ms :=
  every_amend hk _

theorem ofType_amend (hv : n ≠ "apiVersion") (hk : n ≠ "kind") (kind : String) :
    ofType kind (ms.map (amendMember n f)) = ofType kind ms := by
  rw [ofType, every_amend hv.symm, every_amend hk.symm, ofType]

theorem seeing_value {v : Json} (hv : v ≠ .null) (seen : Option α) :
    seeing n read seen (n, v) = (read v).map some := by
  cases v with
  | null => exact absurd rfl hv
  | _ => simp [seeing]

theorem foldlM_amend (h : Commutes f read g) (seen : Option α) :
    (ms.map (amendMember n f)).foldlM (seeing n read) (seen.map g)
      = (ms.foldlM (seeing n read) seen).map (Option.map g) := by
  induction ms generalizing seen with
  | nil => rfl
  | cons m ms ih =>
    obtain ⟨k, v⟩ := m
    have hs : seeing n read (seen.map g) (amendMember n f (k, v))
        = (seeing n read seen (k, v)).map (Option.map g) := by
      by_cases hk : k = n
      · subst hk
        rw [amendMember, if_pos rfl]
        by_cases hv : v = .null
        · subst hv
          rw [(h.null .null).mpr rfl]
          simp [seeing]
        · rw [seeing_value (mt (h.null v).mp hv), seeing_value hv, h.read]
          simp
      · simp [seeing, amendMember, hk]
    rw [List.map_cons, List.foldlM_cons, List.foldlM_cons, hs]
    cases seeing n read seen (k, v) with
    | none => rfl
    | some o => exact ih o

theorem last?_amend (h : Commutes f read g) (ms : List (String × Json)) :
    last? n read (ms.map (amendMember n f)) = (last? n read ms).map (Option.map g) := by
  rw [last?_eq, last?_eq]
  exact foldlM_amend h none

theorem last?_amend_other {β : Type} (hk : k ≠ n) (read : Json → Option β) :
    last? k read (ms.map (amendMember n f)) = last? k read ms := by
  rw [last?_eq, last?_eq, List.foldlM_map]
  congr 1
  funext seen m
  by_cases hm : m.1 = n
  · have hk : m.1 ≠ k := fun h => hk (h.symm.trans hm)
    simp [seeing, amendMember, hm, hm ▸ hk]
  · simp [amendMember, hm]

theorem slots?_obj (names : List String) (spare : Nat) (ms : List (String × Json)) :
    slots? names spare (.obj ms) = names.mapM (slot? ms) :=
  rfl

theorem slot?_amend (k : String) :
    slot? (ms.map (amendMember n f)) k
      = if k = n then (slot? ms k).map (Option.map f) else slot? ms k := by
  have hp : (fun m : String × Json => m.1 == k) ∘ amendMember n f = fun m => m.1 == k := by
    funext m
    by_cases hm : m.1 = n <;> simp [amendMember, hm]
  have hk : ∀ m ∈ ms.filter (·.1 == k), m.1 = k := by simp
  rw [slot?, List.filter_map, hp, slot?]
  generalize ms.filter (·.1 == k) = l at hk
  match l with
  | [] => by_cases hn : k = n <;> simp [hn]
  | [m] =>
    obtain rfl := hk m (List.mem_singleton_self m)
    by_cases hn : m.1 = n <;> simp [amendMember, hn]
  | _ :: _ :: _ => by_cases hn : k = n <;> simp [hn]

end Members

end Json

end TokenCourier
