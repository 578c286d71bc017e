import TokenCourier.Sync.Event

namespace TokenCourier

inductive WatchEvent.About (sa : ServiceAccount) : WatchEvent → Trigger → Prop where
  | apply : About sa (.apply sa) .applied
  | initApply : About sa (.initApply sa) .applied
  | delete : About sa (.delete sa) .deleted

namespace ServiceAccount

structure Named (sa : ServiceAccount) (k : ObjectKey) : Prop where
  name : sa.metadata.name = some k.name
  ns : sa.metadata.ns = some k.ns

/-- There is no name, but a stem that reads like this one. Where there is no stem either, that reads
like the empty name. -/
structure Stemmed (sa : ServiceAccount) (k : ObjectKey) : Prop where
  nameless : sa.metadata.name = none
  stem : sa.metadata.generateName.getD "" = k.name
  ns : sa.metadata.ns = some k.ns

variable {sa : ServiceAccount} {k : ObjectKey}

theorem Named.not_stemmed (h : sa.Named k) (j : ObjectKey) : ¬ sa.Stemmed j := by
  intro hs
  cases h.name.symm.trans hs.nameless

theorem key_iff : sa.key? = some k ↔ sa.Named k ∨ sa.Stemmed k := by
  obtain ⟨name, ns⟩ := k
  constructor
  · intro h
    obtain ⟨ns', hn, hk⟩ := Option.map_eq_some_iff.mp h
    cases hk
    cases hm : sa.metadata.name with
    | some n => exact .inl ⟨hm, hn⟩
    | none => exact .inr ⟨hm, rfl, hn⟩
  · rintro (h | h)
    · simp [key?, ObjectKey.ofMeta?, h.name, h.ns]
    · simp [key?, ObjectKey.ofMeta?, h.nameless, h.stem, h.ns]

end ServiceAccount

section Events

variable {watched : ObjectKey} {sa : ServiceAccount} {e : WatchEvent} {t : Trigger} {n : SyncEvent}

theorem matches_iff : watched.matches sa ↔ sa.Named watched ∨ sa.Stemmed watched := by
  rw [ObjectKey.matches, beq_iff_eq]
  exact ServiceAccount.key_iff

theorem WatchEvent.About.news (h : e.About sa t) :
    e.news? watched = if watched.matches sa then some ⟨watched, t⟩ else none := by
  cases h <;> rfl

/-- The events about an account that are told on are those about the account of that name in that
namespace, and they are told on under its key. -/
def Exact (watched : ObjectKey) (sa : ServiceAccount) (e : WatchEvent) : Prop :=
  ((e.news? watched).isSome ↔ sa.Named watched) ∧ ∀ n, e.news? watched = some n → sa.Named n.key

theorem exact_iff (h : e.About sa t) : Exact watched sa e ↔ ¬ sa.Stemmed watched := by
  rw [Exact, h.news]
  by_cases hm : watched.matches sa
  · rw [if_pos hm]
    obtain hn | hs := matches_iff.mp hm
    · refine iff_of_true ⟨by simpa using hn, ?_⟩ (hn.not_stemmed watched)
      rintro n ⟨⟩
      exact hn
    · refine iff_of_false (fun hx => ?_) (not_not_intro hs)
      exact (hx.2 _ rfl).not_stemmed watched hs
  · rw [if_neg hm]
    obtain ⟨hn, hs⟩ := not_or.mp (mt matches_iff.mpr hm)
    exact iff_of_true ⟨by simpa using hn, nofun⟩ hs

end Events

/-- An event about an account is told on exactly if the watched key is the key of the account,
whatever that is made of. This is an exact match of names exactly if no stem is taken for the
watched name. -/
theorem account_told_iff {watched : ObjectKey} {sa : ServiceAccount} {e : WatchEvent} {t : Trigger}
    (h : e.About sa t) :
    (∀ n, e.news? watched = some n ↔
      n = ⟨watched, t⟩ ∧ (sa.Named watched ∨ sa.Stemmed watched)) ∧
      (∀ n, e.news? watched = some n → sa.key? = some n.key) ∧
      (Exact watched sa e ↔ ¬ sa.Stemmed watched) := by
  have hn : ∀ n, e.news? watched = some n ↔
      n = ⟨watched, t⟩ ∧ (sa.Named watched ∨ sa.Stemmed watched) := by
    intro n
    rw [h.news, Option.ite_none_right_eq_some, matches_iff, Option.some.injEq, and_comm]
    exact and_congr_left' eq_comm
  refine ⟨hn, fun n he => ?_, exact_iff h⟩
  obtain ⟨rfl, hk⟩ := (hn n).mp he
  exact ServiceAccount.key_iff.mpr hk

theorem named_account_told :
    let watched : ObjectKey := ⟨"agent", "addon"⟩
    let sa : ServiceAccount :=
      { metadata := { name := some "agent", generateName := some "other", ns := some "addon" } }
    (WatchEvent.delete sa).About sa .deleted ∧
      (WatchEvent.delete sa).news? watched = some ⟨watched, .deleted⟩ ∧
      Exact watched sa (.delete sa) := by
  intro watched sa
  have hn : sa.Named watched := ⟨rfl, rfl⟩
  have ha : (WatchEvent.delete sa).About sa .deleted := .delete
  obtain ⟨ht, -, hx⟩ := @account_told_iff watched _ _ _ ha
  exact ⟨ha, (ht _).mpr ⟨rfl, .inl hn⟩, hx.mpr (hn.not_stemmed watched)⟩

/-- An account without a name is taken for the watched one. -/
theorem stemmed_account_told :
    let watched : ObjectKey := ⟨"agent", "addon"⟩
    let sa : ServiceAccount :=
      { metadata := { generateName := some "agent", ns := some "addon" } }
    (WatchEvent.apply sa).news? watched = some ⟨watched, .applied⟩ ∧ sa.metadata.name = none ∧
      ¬ Exact watched sa (.apply sa) := by
  intro watched sa
  have hs : sa.Stemmed watched := ⟨rfl, rfl, rfl⟩
  refine ⟨by decide, rfl, fun hx => ?_⟩
  exact (exact_iff .apply).mp hx hs

end TokenCourier
