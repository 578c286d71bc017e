import TokenCourier.Proofs.Manager.Run
import TokenCourier.Proofs.Sync.Agrees

namespace TokenCourier

inductive Call where
  | idle
  | pending (s : Server) (r : Request)
  | answered (a : Answer)

def Call.see (c : Call) : Note → Call
  | .shown (.sent s r) => .pending s r
  | _ => c

def seen (served : List Bool) : Note → List Bool
  | .began .. => []
  | _ => served

def Note.plain : Note → Bool
  | .shown (.sent ..) | .began .. => false
  | _ => true

theorem foldl_plain {ns : List Note} (hn : ns.all Note.plain = true) (c : Call)
    (served : List Bool) : ns.foldl Call.see c = c ∧ ns.foldl seen served = served := by
  induction ns with
  | nil => exact ⟨rfl, rfl⟩
  | cons n ns ih =>
    obtain ⟨hp, hn⟩ := Bool.and_eq_true_iff.mp (List.all_cons ▸ hn)
    have hs : c.see n = c ∧ seen served n = served := by
      cases n with
      | shown e =>
        cases e with
        | log l => exact ⟨rfl, rfl⟩
        | sent s r => cases hp
      | began => cases hp
      | accepted | ended | armed => exact ⟨rfl, rfl⟩
    rw [List.foldl_cons, List.foldl_cons, hs.1, hs.2]
    exact ih hn

/-- `served` tells of each request of the latest reconciliation that was served whether it failed,
and `owed` counts the changes of the watched service account of which no word was sent yet. -/
structure Scene where
  now : Nat := 0
  manager : Manager
  history : History := []
  cluster : Store
  hub : Store
  call : Call := .idle
  served : List Bool := []
  owed : Nat := 0

namespace Manager

theorem plain_logs (ls : List LogLine) : (logs ls).all Note.plain = true := by
  simp [logs, Note.plain]

theorem plain_accepted (ps : List Post) : (ps.map Note.accepted).all Note.plain = true := by
  simp [Note.plain]

variable {m n : Manager} {t : Nat} {cause : Cause} {key : ObjectKey} {ns : List Note}

theorem plain_send (p : Post) : (m.send p).2.all Note.plain = true := by
  unfold send
  split
  · exact plain_logs _
  · exact plain_accepted _

theorem plain_finish (r : Except SyncError Outcome) :
    (m.finish t cause key r).2.all Note.plain = true := by
  have hc : (m.conclude t key r).2.all Note.plain = true := by
    cases r <;> simp [conclude, logs, Note.plain]
  unfold finish
  cases cause with
  | post p | tick => exact hc
  | start =>
    simp only [listen]
    split
    · simp [hc, plain_logs]
    · simp [hc, plain_logs, stop]

/-- All that a manager has to do with is one service account of one cluster. -/
structure Dedicated (cluster watched : ObjectKey) (m : Manager) : Prop where
  identity : m.cluster = cluster
  account : m.watched = watched
  inbox : ∀ p ∈ m.inbox, p.event.key = watched
  blocked : ∀ p ∈ m.blocked, p.event.key = watched
  retries : ∀ r ∈ m.retries, r.key = watched
  key : ∀ c k next, m.phase = .reconciling c k next → k = watched

namespace Dedicated

variable {cluster watched : ObjectKey}

theorem opening (cluster watched : ObjectKey) (period : Nat) :
    Dedicated cluster watched (Manager.opening cluster watched period) :=
  ⟨rfl, rfl, nofun, nofun, nofun, nofun⟩

theorem letIn (ht : Dedicated cluster watched m) : Dedicated cluster watched m.letIn.1 := by
  obtain ⟨hc, hw, hi, hb, hr, hk⟩ := ht
  refine ⟨hc, hw, fun p hp => ?_, fun p hp => hb p (List.mem_of_mem_drop hp), hr, hk⟩
  obtain hp | hp := List.mem_append.mp hp
  · exact hi p hp
  · exact hb p (List.mem_of_mem_take hp)

theorem send (ht : Dedicated cluster watched m) {p : Post} (hp : p.event.key = watched) :
    Dedicated cluster watched (m.send p).1 := by
  unfold Manager.send
  split
  · exact ht
  · obtain ⟨hc, hw, hi, hb, hr, hk⟩ := ht
    refine letIn ⟨hc, hw, hi, fun q hq => ?_, hr, hk⟩
    obtain hq | hq := List.mem_append.mp hq
    · exact hb q hq
    · rw [List.mem_singleton.mp hq]
      exact hp

theorem listen (ht : Dedicated cluster watched m) : Dedicated cluster watched (m.listen t).1 := by
  obtain ⟨hc, hw, hi, hb, hr, hk⟩ := ht
  unfold Manager.listen
  split
  · exact ⟨hc, hw, hi, hb, hr, nofun⟩
  · exact ⟨hc, hw, nofun, nofun, hr, nofun⟩

theorem abandon (ht : Dedicated cluster watched m) : Dedicated cluster watched m.abandon := by
  unfold Manager.abandon
  split
  · exact ht
  · exact ⟨ht.identity, ht.account, ht.inbox, fun p hp => ht.blocked p (List.mem_filter.mp hp).1,
      fun r hr => ht.retries r (List.mem_filter.mp hr).1, ht.key⟩

variable (hk : key = watched)

include hk

theorem conclude (ht : Dedicated cluster watched m) (r : Except SyncError Outcome) :
    Dedicated cluster watched (m.conclude t key r).1 := by
  obtain ⟨hc, hw, hi, hb, hr, hp⟩ := ht
  cases r with
  | ok o => exact ⟨hc, hw, hi, hb, hr, hp⟩
  | error e =>
    refine ⟨hc, hw, hi, hb, fun r hm => ?_, hp⟩
    obtain hm | hm := List.mem_append.mp hm
    · exact hr r hm
    · rw [List.mem_singleton.mp hm]
      exact hk

theorem finish (ht : Dedicated cluster watched m) (r : Except SyncError Outcome) :
    Dedicated cluster watched (m.finish t cause key r).1 := by
  have hd := ht.conclude (t := t) hk r
  unfold Manager.finish
  cases cause with
  | post p | tick => exact ⟨hd.identity, hd.account, hd.inbox, hd.blocked, hd.retries, nofun⟩
  | start => exact hd.listen

theorem proceed (ht : Dedicated cluster watched m) (x : Exchange (Except SyncError Outcome)) :
    Dedicated cluster watched (m.proceed t cause key x).1 := by
  unfold Manager.proceed
  split
  · refine ⟨ht.identity, ht.account, ht.inbox, ht.blocked, ht.retries, fun c k next hp => ?_⟩
    cases hp
    exact hk
  · exact ht.finish hk _

theorem begins (ht : Dedicated cluster watched m) :
    Dedicated cluster watched (m.begin t cause key).1 :=
  ht.abandon.letIn.proceed hk _

omit hk

theorem step {x : Action} (ht : Dedicated cluster watched m)
    (hx : ∀ id e, x = .send id e → e.key = watched) (hs : m.step? t x = some (n, ns)) :
    Dedicated cluster watched n := by
  have hs := step_cases hs
  obtain ⟨hc, hw, hi, hb, hr, hp⟩ := ht
  cases x with
  | start =>
    obtain ⟨-, he⟩ := hs
    cases he
    exact begins hw ⟨hc, hw, hi, hb, hr, hp⟩
  | send id e =>
    have hd := send ⟨hc, hw, hi, hb, hr, hp⟩ (p := ⟨.outside id, e⟩) (hx id e rfl)
    rwa [hs] at hd
  | fire id =>
    obtain ⟨r, hm, -, -, he⟩ := hs
    have hf : Dedicated cluster watched { m with retries := m.retries.filter (·.id != id) } :=
      ⟨hc, hw, hi, hb, fun r hr' => hr r (List.mem_filter.mp hr').1, hp⟩
    have hd := hf.send (p := r.post) (hr r hm)
    rwa [he] at hd
  | receive =>
    obtain ⟨p, ps, -, hq, he⟩ := hs
    rw [hq] at hi
    cases he
    exact begins (hi p List.mem_cons_self)
      ⟨hc, hw, fun q hq => hi q (List.mem_cons_of_mem p hq), hb, hr, hp⟩
  | tick =>
    obtain ⟨-, he⟩ := hs
    cases he
    exact begins hw ⟨hc, hw, hi, hb, hr, hp⟩
  | answer a =>
    obtain ⟨c, k, next, hq, he⟩ := hs
    have hd : Dedicated cluster watched (m.proceed t c k (next a)).1 :=
      proceed (hp c k next hq) ⟨hc, hw, hi, hb, hr, hp⟩ _
    rwa [he] at hd

end Dedicated

def Action.Own : Action → Prop
  | .send .. | .answer _ => False
  | .start | .fire _ | .receive | .tick => True

end Manager

namespace Scene

open Manager

def opening (cluster watched : ObjectKey) (period : Nat) (st hub : Store) : Scene where
  manager := Manager.opening cluster watched period
  cluster := st
  hub := hub

def after (s : Scene) (m : Manager) (ns : List Note) : Scene :=
  { s with
    manager := m
    history := s.history ++ stamp s.now ns
    call := ns.foldl Call.see s.call
    served := ns.foldl seen s.served }

def answered (s : Scene) (a : Answer) (failed : Bool) : Scene :=
  { s with call := .answered a, served := s.served ++ [failed] }

/-- What may happen. A request is served, or fails, some time after it was made, and its answer
arrives some time after that. What is sent may be word of a change, or of none. Whoever changes the
watched service account leaves token and address alone; others leave that account and the cluster's
secret alone as well. -/
inductive Step : Scene → Scene → Prop where
  | acts {s x m ns} : x.Own → s.manager.step? s.now x = some (m, ns) → Step s (s.after m ns)
  | told {s m ns} (id : Nat) (trigger : Trigger) (owed : Nat) : owed ≤ s.owed → s.owed ≤ owed + 1 →
      s.manager.step? s.now (.send id ⟨s.manager.watched, trigger⟩) = some (m, ns) →
      Step s { s.after m ns with owed }
  | reads {s r} : s.call = .pending .cluster r →
      Step s ({ s with cluster := (s.cluster.serve r).2 }.answered (s.cluster.serve r).1 false)
  | writes {s r} : s.call = .pending .hub r →
      Step s ({ s with hub := (s.hub.serve r).2 }.answered (s.hub.serve r).1 false)
  | refuses {s sv r a} : s.call = .pending sv r → a.Refuses → Step s (s.answered a true)
  | answers {s a m ns} : s.call = .answered a →
      s.manager.step? s.now (.answer a) = some (m, ns) →
      Step s ({ s with call := .idle }.after m ns)
  | changes {s} (c : Store) : SameSources s.cluster c →
      Step s { s with cluster := c, owed := s.owed + 1 }
  | others {s} (c hub : Store) : SameSources s.cluster c →
      c.account? s.manager.watched = s.cluster.account? s.manager.watched →
      Others (secretAt s.manager.cluster.clusterSecret) s.hub hub →
      Step s { s with cluster := c, hub := hub }
  | waits {s} (til : Nat) : s.now ≤ til → Step s { s with now := til }

abbrev Steps := Relation.ReflTransGen Step

/-- Word of every change was sent and received, and the latest reconciliation is over and has
succeeded. -/
structure Quiescent (s : Scene) : Prop where
  owed : s.owed = 0
  inbox : s.manager.inbox = []
  waiting : s.manager.phase = .waiting
  succeeded : ∃ a as t o, s.history.ledger = a :: as ∧ a.verdict = some (t, .ok o)

inductive Turn where
  | own (x : Action)
  | told (id : Nat) (trigger : Trigger)
  | served
  | answered

instance (x : Action) : Decidable x.Own :=
  match x with
  | .send .. | .answer _ => isFalse id
  | .start | .fire _ | .receive | .tick => isTrue trivial

def turn? (s : Scene) : Turn → Option Scene
  | .own x => if x.Own then (s.manager.step? s.now x).map fun y => s.after y.1 y.2 else none
  | .told id trigger =>
    (s.manager.step? s.now (.send id ⟨s.manager.watched, trigger⟩)).map fun y =>
      { s.after y.1 y.2 with owed := s.owed - 1 }
  | .served =>
    match s.call with
    | .pending .cluster r =>
      some ({ s with cluster := (s.cluster.serve r).2 }.answered (s.cluster.serve r).1 false)
    | .pending .hub r =>
      some ({ s with hub := (s.hub.serve r).2 }.answered (s.hub.serve r).1 false)
    | _ => none
  | .answered =>
    match s.call with
    | .answered a =>
      (s.manager.step? s.now (.answer a)).map fun y => { s with call := .idle }.after y.1 y.2
    | _ => none

variable {s s' s'' : Scene}

theorem turn_step {x : Turn} (hx : s.turn? x = some s') : Step s s' := by
  cases x with
  | own x =>
    simp only [turn?] at hx
    split at hx
    · next ho =>
      obtain ⟨y, hy, rfl⟩ := Option.map_eq_some_iff.mp hx
      exact .acts ho hy
    · cases hx
  | told id trigger =>
    simp only [turn?] at hx
    obtain ⟨y, hy, rfl⟩ := Option.map_eq_some_iff.mp hx
    exact .told id trigger (s.owed - 1) (by omega) (by omega) hy
  | served =>
    simp only [turn?] at hx
    split at hx
    · next hc =>
      cases hx
      exact .reads hc
    · next hc =>
      cases hx
      exact .writes hc
    · cases hx
  | answered =>
    simp only [turn?] at hx
    split at hx
    · next hc =>
      obtain ⟨y, hy, rfl⟩ := Option.map_eq_some_iff.mp hx
      exact .answers hc hy
    · cases hx

theorem turns_steps {xs : List Turn} (hr : Steps s'' s) (hx : xs.foldlM turn? s = some s') :
    Steps s'' s' := by
  induction xs generalizing s with
  | nil =>
    cases hx
    exact hr
  | cons x xs ih =>
    obtain ⟨s₁, hs, hx⟩ := Option.bind_eq_some_iff.mp hx
    exact ih (hr.tail (turn_step hs)) hx

end Scene

end TokenCourier
