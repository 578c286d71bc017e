import TokenCourier.Config
import TokenCourier.Connect.Hub
import TokenCourier.Api.Exchange
import TokenCourier.Sync.Manager

namespace TokenCourier

structure Controller where
  hub : Connection
  cluster : ObjectKey
  watched : ObjectKey
  resyncSeconds : Nat
deriving Inhabited

namespace Controller

def disabled : Remark :=
  ⟨.controller, .info, "Running standalone, agent token sync disabled"⟩

def created (hub : Connection) : Remark := ⟨.hubClient, Hub.created hub⟩

def failure (e : SyncError) : Remark :=
  ⟨.controller, .error, "Failed to generate client to hub cluster: " ++ e.message⟩

def adding (cluster : ObjectKey) : Remark :=
  ⟨.controller, .info, s!"Adding agent token controller for {cluster}"⟩

def ofHub (hub : Connection) (cluster : ObjectKey) : Controller :=
  { hub, cluster, watched := Config.defaultWatched, resyncSeconds := Config.defaultResync }

def add (m : Machine) (hub : Connection) (cluster : ObjectKey) (standalone : Bool) :
    List Remark × Except SyncError (Option Controller) :=
  if standalone then ([disabled], .ok none)
  else
    match Hub.client m hub with
    | .ok () => ([created hub, adding cluster], .ok (some (ofHub hub cluster)))
    | .error e => ([failure e], .error e)

def watching (c : Controller) (watched : ObjectKey) : Controller := { c with watched }

def resyncEvery (c : Controller) (seconds : Nat) : Controller := { c with resyncSeconds := seconds }

def manager (c : Controller) : Manager :=
  { cluster := c.cluster, watched := c.watched, period := 1000 * c.resyncSeconds }

end Controller

end TokenCourier
