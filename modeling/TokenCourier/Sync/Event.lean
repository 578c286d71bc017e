import TokenCourier.Kube.ServiceAccount

namespace TokenCourier

inductive WatchEvent where
  | apply (sa : ServiceAccount)
  | delete (sa : ServiceAccount)
  | init
  | initApply (sa : ServiceAccount)
  | initDone
deriving DecidableEq

inductive Trigger where
  | applied | deleted | retry | relisted
deriving DecidableEq, Repr

def Trigger.word : Trigger → String
  | .applied => "Applied"
  | .deleted => "Deleted"
  | .retry => "Retry"
  | .relisted => "Relisted"

structure SyncEvent where
  key : ObjectKey
  trigger : Trigger
deriving DecidableEq

def ObjectKey.matches (watched : ObjectKey) (sa : ServiceAccount) : Bool := sa.key? == some watched

/-- A finished listing is always news: a deletion while the watch paused shows in no other way. -/
def WatchEvent.news? (watched : ObjectKey) : WatchEvent → Option SyncEvent
  | .apply sa | .initApply sa => if watched.matches sa then some ⟨watched, .applied⟩ else none
  | .delete sa => if watched.matches sa then some ⟨watched, .deleted⟩ else none
  | .initDone => some ⟨watched, .relisted⟩
  | .init => none

end TokenCourier
