import TokenCourier.Proofs.Config
import TokenCourier.Proofs.Manager.Pace
import TokenCourier.Proofs.Store.Basic

namespace TokenCourier

namespace Manager

variable {lookup : String → Option String} {c : Config} {hub : Connection} {s t : Nat}
  {h : History} {m : Manager}

def hourly : Config := .ofEnvironment ⟨"prod", "fleet"⟩ 3600

end Manager

end TokenCourier
