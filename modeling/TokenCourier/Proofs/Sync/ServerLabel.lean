import TokenCourier.Proofs.Sync.Labels
import TokenCourier.Proofs.Url.WebAddress

namespace TokenCourier.ClusterSecret

/-- The label is the sanitized host in lower case, if anything is left of it. -/
theorem serverLabel_of_host {a : WebAddress} (h : a.Plain) :
    let value := Label.sanitize a.host.toLower
    serverLabel a.text = ([], if value = "" then none else some value) ∧
      ∀ b : WebAddress, b.Plain → b.host = a.host → serverLabel b.text = serverLabel a.text := by
  have hl : ∀ b : WebAddress, b.Plain →
      serverLabel b.text = ([], Label.ofHost? b.host.toLower) := by
    intro b hb
    rw [serverLabel, hb.host_eq]
  refine ⟨hl a h, fun b hb hh => ?_⟩
  rw [hl a h, hl b hb, hh]

def fullAddress : WebAddress where
  user := some "admin"
  host := "API.Prod-1.Example.com"
  port := some "06443"
  path := some "v1/x.y"
  query := some "a-b"
  fragment := some "/top"

/-- Only the host shows in the label. -/
theorem full_address_labelled :
    fullAddress.text = "https://admin@API.Prod-1.Example.com:06443/v1/x.y?a-b#/top" ∧
    fullAddress.Plain ∧
      serverLabel fullAddress.text = ([], some "api-prod-1-example-com") := by
  have h : fullAddress.Plain := by decide
  have hv : Label.sanitize fullAddress.host.toLower = "api-prod-1-example-com" := by
    decide +kernel
  have hl := (serverLabel_of_host h).1
  rw [hv] at hl
  exact ⟨by decide, h, hl⟩

end TokenCourier.ClusterSecret
