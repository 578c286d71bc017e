import TokenCourier.Proofs.Json.Indented
import TokenCourier.Sync.ClusterSecret

namespace TokenCourier

namespace ClusterConfig

open Json

variable {c d : ClusterConfig} {s : String}

theorem decode?_toJson (c : ClusterConfig) : decode? c.toJson = some c := by
  obtain ⟨token, insecure⟩ := c
  simp [decode?, toJson, tls?, slots?, required?, string?, bool?]

/-- Whatever the layout of a text, what counts is the value that it is read as. -/
theorem parse?_of_read (h : read? s = some c.toJson) : parse? s = some c := by
  rw [parse?, h, Option.bind_some, decode?_toJson]

theorem parse?_compact (c : ClusterConfig) : parse? c.compact = some c :=
  parse?_of_read (read?_compact _ rfl)

theorem parse?_pretty (c : ClusterConfig) : parse? c.pretty = some c :=
  parse?_of_read (read?_pretty _ rfl)

theorem parse?_unique (hc : s = c.compact ∨ s = c.pretty) (hd : s = d.compact ∨ s = d.pretty) :
    c = d := by
  have read {e : ClusterConfig} (h : s = e.compact ∨ s = e.pretty) : parse? s = some e := by
    obtain rfl | rfl := h
    · exact parse?_compact e
    · exact parse?_pretty e
  exact Option.some.inj ((read hc).symm.trans (read hd))

/-- Either text of a configuration gives it back, whatever characters its token is made of. -/
theorem renderings_faithful :
    (∀ c : ClusterConfig, parse? c.compact = some c ∧ parse? c.pretty = some c) ∧
      Function.Injective compact ∧ Function.Injective pretty ∧
      (∀ c : ClusterConfig, parse? c.compact = parse? c.pretty) ∧
      ∀ c d : ClusterConfig, c ≠ d → c.compact ≠ d.pretty := by
  refine ⟨fun c => ⟨parse?_compact c, parse?_pretty c⟩, ?_, ?_, ?_, ?_⟩
  · intro c d h
    exact parse?_unique (.inl rfl) (.inl h)
  · intro c d h
    exact parse?_unique (.inr rfl) (.inr h)
  · intro c
    rw [parse?_compact, parse?_pretty]
  · intro c d hn h
    exact hn (parse?_unique (.inl rfl) (.inr h))

end ClusterConfig

end TokenCourier
