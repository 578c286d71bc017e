import TokenCourier.Watch.Cycle

namespace TokenCourier

/-- `errors` counts those of the series, `last` is when the last one was. -/
structure Pauses where
  errors : Nat := 0
  last : Option Nat := none
deriving DecidableEq

namespace Pauses

def shortest : Nat := 800

def longest : Nat := 30000

/-- Errors further apart than this are of two series. -/
def memory : Nat := 120000

/-- The pause after an error that follows `n` others. -/
def length (n : Nat) : Nat := if n = 0 then shortest else min longest (shortest * Nat.pow 2 n + 1)

def next (p : Pauses) (now : Nat) : Nat × Pauses :=
  let errors := if p.last.any (· + memory < now) then 0 else p.errors
  (length errors, ⟨errors + 1, some now⟩)

def reset (p : Pauses) : Pauses := { p with errors := 0 }

end Pauses

structure Watcher where
  watched : ObjectKey
  watch : Watch := .fresh
  pauses : Pauses := {}

inductive Reaction where
  | nothing
  | send (e : SyncEvent)
  | pause (l : LogLine) (length : Nat)

namespace Watcher

def started (watched : ObjectKey) : LogLine := ⟨.info, s!"Watching service account {watched}"⟩

def react (w : Watcher) (now : Nat) : Item → Reaction × Watcher
  | .ok e => ((e.news? w.watched).elim .nothing .send, { w with pauses := w.pauses.reset })
  | .error e =>
    let (length, pauses) := w.pauses.next now
    (.pause e.report length, { w with pauses })

/-- The events that a sequence of items sends to the manager. -/
def forwards (watched : ObjectKey) (is : List Item) : List SyncEvent :=
  is.filterMap fun
    | .ok e => e.news? watched
    | .error _ => none

end Watcher

end TokenCourier
