import TokenCourier.Proofs.Config
import TokenCourier.Proofs.Text.Decimal
import TokenCourier.Program.Start

namespace TokenCourier

namespace Config

variable {lookup : String → Option String} {c : Config} {e : ConfigError}

def Flagged (lookup : String → Option String) : Prop :=
  ∀ v ∈ lookup "STANDALONE", v = "true" ∨ v = "false"

def Named (lookup : String → Option String) : Prop := ∃ name, lookup "CLUSTER_NAME" = some name

def Attached (lookup : String → Option String) : Prop :=
  (∃ path, lookup "HUB_KUBECONFIG" = some path) ∨ lookup "STANDALONE" = some "true"

def Timed (lookup : String → Option String) : Prop :=
  ∀ v ∈ lookup "RESYNC_INTERVAL_SECS", ∃ n, Decimal.Writes v n ∧ 1 ≤ n ∧ n ≤ 2 ^ 64 - 1

/-- The first condition that does not hold, with the error that reports it. -/
inductive Rejected (lookup : String → Option String) : ConfigError → Prop where
  | standalone {v} : lookup "STANDALONE" = some v → v ≠ "true" → v ≠ "false" →
      Rejected lookup (.standalone v)
  | noName : Flagged lookup → ¬ Named lookup → Rejected lookup .noName
  | noHubKubeconfig : Flagged lookup → Named lookup → ¬ Attached lookup →
      Rejected lookup .noHubKubeconfig
  | resync {v f} : Flagged lookup → Named lookup → Attached lookup →
      lookup "RESYNC_INTERVAL_SECS" = some v → (∀ n, Decimal.Writes v n → 2 ^ 64 - 1 < n) →
      Decimal.read (2 ^ 64 - 1) v = .error f → Rejected lookup (.resync v f)
  | resyncZero {v} : Flagged lookup → Named lookup → Attached lookup →
      lookup "RESYNC_INTERVAL_SECS" = some v → Decimal.Writes v 0 → Rejected lookup .resyncZero

structure Holds (lookup : String → Option String) (c : Config) : Prop where
  name : lookup "CLUSTER_NAME" = some c.cluster.name
  ns : c.cluster.ns = (lookup "CLUSTER_NAMESPACE").getD c.cluster.name
  standalone : c.standalone = true ↔ lookup "STANDALONE" = some "true"
  hub : c.hubKubeconfig = lookup "HUB_KUBECONFIG"
  watchedName : c.watched.name
    = (lookup "WATCH_SERVICE_ACCOUNT_NAME").getD "klusterlet-addon-appmgr"
  watchedNs : c.watched.ns
    = (lookup "WATCH_SERVICE_ACCOUNT_NAMESPACE").getD "open-cluster-management-agent-addon"
  unset : lookup "RESYNC_INTERVAL_SECS" = none → c.resyncSeconds = 36000
  resync : ∀ v ∈ lookup "RESYNC_INTERVAL_SECS", Decimal.Writes v c.resyncSeconds

variable {b : Bool} {n : Nat}

theorem flag?_some {v : String} (h : flag? v = some b) :
    (v = "true" ∨ v = "false") ∧ (b = true ↔ v = "true") := by
  unfold flag? at h
  split_ifs at h with ht hf
  · cases h
    exact ⟨.inl ht, iff_of_true rfl ht⟩
  · cases h
    exact ⟨.inr hf, iff_of_false (by decide) ht⟩

theorem flag?_none {v : String} (h : flag? v = none) : v ≠ "true" ∧ v ≠ "false" := by
  unfold flag? at h
  split_ifs at h with ht hf
  exact ⟨ht, hf⟩

theorem flagOf_ok (h : flagOf lookup = .ok b) :
    Flagged lookup ∧ (b = true ↔ lookup "STANDALONE" = some "true") := by
  unfold flagOf at h
  cases hs : lookup "STANDALONE" with
  | none =>
    rw [hs] at h
    cases h
    simp [Flagged, hs]
  | some v =>
    rw [hs] at h
    cases hv : flag? v with
    | none => simp [hv] at h
    | some f =>
      obtain rfl : f = b := by simpa [hv] using h
      simpa [Flagged, hs] using flag?_some hv

theorem flagOf_error (h : flagOf lookup = .error e) : Rejected lookup e := by
  unfold flagOf at h
  cases hs : lookup "STANDALONE" with
  | none =>
    rw [hs] at h
    cases h
  | some v =>
    rw [hs] at h
    cases hv : flag? v with
    | none =>
      obtain rfl : ConfigError.standalone v = e := by simpa [hv] using h
      exact .standalone hs (flag?_none hv).1 (flag?_none hv).2
    | some f => simp [hv] at h

theorem secondsOf_ok (h : secondsOf lookup = .ok n) : Timed lookup ∧
    (lookup "RESYNC_INTERVAL_SECS" = none → n = 36000) ∧
      ∀ v ∈ lookup "RESYNC_INTERVAL_SECS", Decimal.Writes v n := by
  unfold secondsOf at h
  cases hs : lookup "RESYNC_INTERVAL_SECS" with
  | none =>
    rw [hs] at h
    cases h
    simp [Timed, hs, defaultResync]
  | some v =>
    rw [hs] at h
    dsimp only at h
    cases hr : Decimal.read maxSeconds v with
    | error f => simp [hr] at h
    | ok m =>
      obtain ⟨hw, hm⟩ := Decimal.read_ok_iff.mp hr
      simp only [hr] at h
      split_ifs at h with h0
      cases h
      refine ⟨?_, by simp, by simpa using hw⟩
      simpa [Timed, hs] using ⟨n, hw, Nat.pos_of_ne_zero h0, hm⟩

theorem secondsOf_error (h : secondsOf lookup = .error e) (hf : Flagged lookup)
    (hn : Named lookup) (ha : Attached lookup) : Rejected lookup e := by
  unfold secondsOf at h
  cases hs : lookup "RESYNC_INTERVAL_SECS" with
  | none =>
    rw [hs] at h
    cases h
  | some v =>
    rw [hs] at h
    cases hr : Decimal.read maxSeconds v with
    | error f =>
      obtain rfl : ConfigError.resync v f = e := by simpa [hr] using h
      exact .resync hf hn ha hs (fun n hw => Decimal.lt_of_read_error hr hw) hr
    | ok m =>
      simp only [hr] at h
      split_ifs at h with h0
      cases h
      exact .resyncZero hf hn ha hs (h0 ▸ (Decimal.read_ok_iff.mp hr).1)

theorem load_cases (lookup : String → Option String) :
    (∃ e, load lookup = .error e ∧ Rejected lookup e) ∨
      ∃ c, load lookup = .ok c ∧ Holds lookup c ∧
        Flagged lookup ∧ Named lookup ∧ Attached lookup ∧ Timed lookup := by
  rw [load_eq]
  cases hb : flagOf lookup with
  | error e => exact .inl ⟨e, rfl, flagOf_error hb⟩
  | ok b =>
    obtain ⟨hf, hb⟩ := flagOf_ok hb
    cases hn : lookup "CLUSTER_NAME" with
    | none => exact .inl ⟨.noName, rfl, .noName hf (by simp [Named, hn])⟩
    | some name =>
      have hN : Named lookup := ⟨name, hn⟩
      dsimp only
      by_cases hh : lookup "HUB_KUBECONFIG" = none ∧ !b
      · rw [if_pos hh]
        have ha : ¬ Attached lookup := by
          rw [Attached, ← hb]
          simpa [hh.1] using hh.2
        exact .inl ⟨.noHubKubeconfig, rfl, .noHubKubeconfig hf hN ha⟩
      · rw [if_neg hh]
        have ha : Attached lookup := by
          rw [Attached, ← hb, ← Option.isSome_iff_exists, ← Option.ne_none_iff_isSome]
          simpa [or_iff_not_imp_left] using hh
        cases hr : secondsOf lookup with
        | error e => exact .inl ⟨e, rfl, secondsOf_error hr hf hN ha⟩
        | ok n =>
          obtain ⟨ht, hd, hw⟩ := secondsOf_ok hr
          exact .inr ⟨built lookup b name n, rfl, ⟨hn, rfl, hb, rfl, rfl, rfl, hd, hw⟩, hf, hN,
            ha, ht⟩

theorem Rejected.not_all (h : Rejected lookup e) :
    ¬ (Flagged lookup ∧ Named lookup ∧ Attached lookup ∧ Timed lookup) := by
  rintro ⟨hf, hn, ha, ht⟩
  cases h with
  | standalone hs h1 h2 => exact (hf _ hs).elim h1 h2
  | noName _ h => exact h hn
  | noHubKubeconfig _ _ h => exact h ha
  | resync _ _ _ hs hw =>
    obtain ⟨n, hn, -, hm⟩ := ht _ hs
    exact absurd (hw n hn) (Nat.not_lt.mpr hm)
  | resyncZero _ _ _ hs hw =>
    obtain ⟨n, hn, h1, -⟩ := ht _ hs
    exact absurd (hn.unique hw) (Nat.ne_of_gt h1)

end Config

namespace Starting

/-- The way to the hub, once the path of its kubeconfig is known. -/
def hubAt (m : Machine) (path : String) : Starting Connection :=
  match Hub.load m path with
  | .ok c => pure c
  | .error e => fail e.message []

theorem hub_of_some {m : Machine} {c : Config} {path : String} (h : c.hubKubeconfig = some path) :
    hub m c = hubAt m path := by
  rw [hub, h]
  rfl

end Starting

namespace Config

/-- Exactly the valid environments are accepted, with what they say and the defaults for what they
leave out. Of the others, the first condition that does not hold is reported. Without the flag there
is always a kubeconfig for the hub, so that the start does not have to look for it again. -/
theorem load_exact (lookup : String → Option String) :
    ((∃ c, load lookup = .ok c) ↔
      Flagged lookup ∧ Named lookup ∧ Attached lookup ∧ Timed lookup) ∧
    (∀ c, load lookup = .ok c → Holds lookup c) ∧
    (∀ e, load lookup = .error e → Rejected lookup e) ∧
    ∀ m c, load lookup = .ok c → c.standalone = false →
      ∃ path, c.hubKubeconfig = some path ∧ Starting.hub m c = Starting.hubAt m path := by
  obtain ⟨e, hl, hr⟩ | ⟨c, hl, hc, hall⟩ := load_cases lookup
  · rw [hl]
    refine ⟨iff_of_false (by simp) hr.not_all, by simp, ?_, by simp⟩
    intro e' h
    cases h
    exact hr
  · rw [hl]
    refine ⟨iff_of_true ⟨c, rfl⟩ hall, ?_, by simp, ?_⟩
    · intro c' h
      cases h
      exact hc
    · intro m c' h hs
      cases h
      obtain ⟨path, hp⟩ : ∃ path, lookup "HUB_KUBECONFIG" = some path := by
        refine hall.2.2.1.resolve_right fun ht => ?_
        rw [hc.standalone.mpr ht] at hs
        cases hs
      have hp := hc.hub.trans hp
      exact ⟨path, hp, Starting.hub_of_some hp⟩

end Config

end TokenCourier
