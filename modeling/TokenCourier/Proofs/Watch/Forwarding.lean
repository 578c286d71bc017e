import TokenCourier.Agent
import TokenCourier.Controller
import TokenCourier.Proofs.Manager.Keys
import TokenCourier.Proofs.Watch.Relays

namespace TokenCourier

namespace Follower

def pending (f : Follower) : List Item :=
  match f.doing with
  | .handling is | .sending is | .pausing _ is => is
  | .asking | .reading => []

/-- What the follower learns on its way to the next wait: that a query cannot be sent, or what a
stream that is open holds already. -/
def learnsNext (f : Follower) : List Signal :=
  match f.watcher.watch.ask with
  | (_ :: _, _, _) => []
  | ([], _, some q) =>
    match q.request f.watcher.watched, q with
    | .error e, .page _ => [.page (.error (.request e))]
    | .error e, .stream _ => [.opened (.error (.request e))]
    | .ok _, _ => []
  | ([], _, none) =>
    match f.inflow.draw.1 with
    | .signal s => [s]
    | .skip | .more => []

variable {f : Follower}

inductive Waits (f : Follower) : List Signal → Follower → Prop where
  | asks {g} : g.watcher = { f.watcher with watch := f.watcher.watch.ask.2.1 } →
      g.doing = .handling f.watcher.watch.ask.1 ∨
        f.watcher.watch.ask.1 = [] ∧ (g.doing = .asking ∨ g.doing = .reading) →
      Waits f [] g
  | learns {g s} : f.watcher.watch.ask.1 = [] →
      g.watcher = { f.watcher with watch := (f.watcher.watch.ask.2.1.hear s).2 } →
      g.doing = .handling (f.watcher.watch.ask.2.1.hear s).1 → Waits f [s] g

theorem wait_waits (hd : f.doing = .handling []) : Waits f f.learnsNext f.wait.1 := by
  rcases ha : f.watcher.watch.ask with ⟨items, watch, q⟩
  have hi : f.watcher.watch.ask.1 = items := by rw [ha]
  have hw : f.watcher.watch.ask.2.1 = watch := by rw [ha]
  cases items with
  | cons i is =>
    simp only [learnsNext, wait, ha]
    exact .asks (by rw [hw]) (.inl (by rw [hi]))
  | nil =>
    cases q with
    | some q =>
      simp only [learnsNext, wait, ha, query]
      cases q.request f.watcher.watched with
      | ok r => exact .asks (by rw [hw]) (.inr ⟨hi, .inl rfl⟩)
      | error e => cases q <;> exact .learns hi (by rw [hw]; rfl) (by rw [hw]; rfl)
    | none =>
      rcases hr : f.inflow.draw with ⟨r, inflow⟩
      simp only [learnsNext, wait, ha, hr]
      cases r with
      | signal s => exact .learns hi (by rw [hw]; rfl) (by rw [hw]; rfl)
      | skip => exact .asks (by rw [hw]) (.inl (by rw [hi]; exact hd))
      | more => exact .asks (by rw [hw]) (.inr ⟨hi, .inr rfl⟩)

end Follower

namespace Manager

variable {t id : Nat} {m n : Manager} {x : Action} {ns : List Note}

theorem step_blocks (hx : m.step? t x = some (n, ns)) (hs : ∀ e, x ≠ .send id e)
    (hp : n.phase ≠ .stopped) (hb : n.blocks id = true) : m.blocks id = true := by
  obtain ⟨p, hm, he⟩ := List.any_eq_true.mp hb
  obtain ⟨ps, hq, ho, -⟩ := step_queue hx hp
  have hm := List.mem_append_right (History.accepted (stamp t ns)) hm
  rw [hq] at hm
  apply List.any_eq_true.mpr
  obtain hm | hm := List.mem_append.mp hm
  · refine ⟨p, ?_, he⟩
    split at hm
    · exact (abandon_blocked m).subset hm
    · exact hm
  · have hi : p.sender = .outside id := by simpa using he
    have hm : p ∈ x.post?.toList := by
      rw [← ho]
      exact List.mem_filter.mpr ⟨hm, by simp [Post.outside, hi, Sender.retry?]⟩
    cases x with
    | send i e =>
      cases List.mem_singleton.mp hm
      cases hi
      exact absurd rfl (hs e)
    | start | fire | receive | tick | answer => cases hm

end Manager

namespace Agent

/-- What the watch learnt in a run, which items were taken up, and what the manager did. -/
structure Trace where
  signals : List Signal := []
  items : List Item := []
  actions : List Manager.Action := []
  history : History := []

namespace Trace

def append (S T : Trace) : Trace :=
  ⟨S.signals ++ T.signals, S.items ++ T.items, S.actions ++ T.actions, S.history ++ T.history⟩

instance : Append Trace := ⟨append⟩

def sent (S : Trace) : List SyncEvent :=
  ((S.actions.filterMap Manager.Action.post?).filter (·.sender = .outside watcher)).map (·.event)

end Trace

def opened (cluster watched : ObjectKey) (period : Nat) (is : List Item) : Agent :=
  (opening (.opening cluster watched period) true).agent.tell ({ · with doing := .handling is })

theorem controller_opened (c : Controller) :
    (opening c.manager true).agent = opened c.cluster c.watched (1000 * c.resyncSeconds) [] := rfl

def actTrace (a : Agent) (t : Nat) (x : Manager.Action) : Trace :=
  { actions := [x], history := Manager.stamp t ((a.manager.step? t x).elim [] (·.2)) }

def followerTrace (a : Agent) (t : Nat) (f : Follower) : Trace :=
  match f.doing with
  | .handling [] => { signals := f.learnsNext }
  | .handling (i :: _) =>
    match (f.watcher.react t i).1 with
    | .send e => { a.actTrace t (.send watcher e) with items := [i] }
    | .nothing | .pause .. => { items := [i] }
  | _ => {}

def followTrace (a : Agent) (t : Nat) : Trace := a.follower.elim {} (a.followerTrace t)

/-- Whatever the servers answer, whoever else sends, and in whatever order things happen that happen
at one time. -/
inductive Run (s : Nat × Agent) : Trace → Nat × Agent → Prop where
  | refl : Run s {} s
  | act {S t a T} (x : Manager.Action) : Run s S (t, a) → (∀ e, x ≠ .send watcher e) →
      a.act t x = some T → Run s (S ++ a.actTrace t x) (t, T.agent)
  | follow {S t a T} : Run s S (t, a) → a.follow t = some T →
      Run s (S ++ a.followTrace t) (t, T.agent)
  | hear {S t a f} (r : Signal) : Run s S (t, a) → a.follower = some f → f.doing = .asking →
      Run s (S ++ { signals := [r] }) (t, a.tell (·.hear r))
  | receive {S t a f} (bs : ByteArray) : Run s S (t, a) → a.follower = some f →
      f.doing = .reading → Run s S (t, a.tell (·.receive bs))
  | finish {S t a f} : Run s S (t, a) → a.follower = some f → f.doing = .reading →
      Run s S (t, a.tell Follower.finish)
  | wait {S t a u} : Run s S (t, a) → t ≤ u → a.manager.IdleUntil u → Run s S (u, a)

inductive FollowStep (t : Nat) (a : Agent) (f : Follower) : Trace → Agent → Prop where
  | waits : f.doing = .handling [] →
      FollowStep t a f { signals := f.learnsNext } { a with follower := some f.wait.1 }
  | skips {i is w} : f.doing = .handling (i :: is) → f.watcher.react t i = (.nothing, w) →
      FollowStep t a f { items := [i] }
        { a with follower := some { f with watcher := w, doing := .handling is } }
  | sends {i is w e m ns} : f.doing = .handling (i :: is) →
      f.watcher.react t i = (.send e, w) → a.manager.step? t (.send watcher e) = some (m, ns) →
      FollowStep t a f ⟨[], [i], [.send watcher e], Manager.stamp t ns⟩
        ⟨m, some { f with watcher := w, doing := .sending is }⟩
  | pauses {i is w l n} : f.doing = .handling (i :: is) →
      f.watcher.react t i = (.pause l n, w) →
      FollowStep t a f { items := [i] }
        { a with follower := some { f with watcher := w, doing := .pausing (t + n) is } }
  | resumes {is} :
      f.doing = .sending is ∧ a.manager.blocks watcher = false ∨
        (∃ till ≤ t, f.doing = .pausing till is) →
      FollowStep t a f {} { a with follower := some { f with doing := .handling is } }

variable {t u : Nat} {a b : Agent} {f g : Follower} {S : Trace} {T : Turn} {x : Manager.Action}

theorem act_ok (hT : a.act t x = some T) :
    ∃ m ns, a.manager.step? t x = some (m, ns) ∧ T.agent = { a with manager := m } := by
  obtain ⟨⟨m, ns⟩, hx, he⟩ := Option.bind_eq_some_iff.mp hT
  cases he
  exact ⟨m, ns, hx, rfl⟩

theorem lacking_agent (l : Option Lack) :
    (a.lacking f l).agent = { a with follower := some f } := by
  cases l with
  | none => rfl
  | some l => cases l <;> rfl

theorem followTrace_of (hf : a.follower = some f) : a.followTrace t = a.followerTrace t f := by
  rw [followTrace, hf, Option.elim_some]

theorem handle_followStep {i : Item} {is : List Item} (hd : f.doing = .handling (i :: is))
    (hT : a.handle t f i is = some T) : FollowStep t a f (a.followerTrace t f) T.agent := by
  rcases hr : f.watcher.react t i with ⟨r, w⟩
  simp only [handle, hr] at hT
  simp only [followerTrace, hd, hr]
  cases r with
  | nothing =>
    cases hT
    exact .skips hd hr
  | pause l n =>
    cases hT
    exact .pauses hd hr
  | send e =>
    obtain ⟨m, ns, hx, he⟩ := act_ok hT
    have hx : a.manager.step? t (.send watcher e) = some (m, ns) := hx
    rw [he]
    simp only [actTrace, hx, Option.elim_some]
    exact .sends hd hr hx

theorem follow_followStep (hT : a.follow t = some T) :
    ∃ f, a.follower = some f ∧ FollowStep t a f (a.followTrace t) T.agent := by
  obtain ⟨f, hf, hT⟩ := Option.bind_eq_some_iff.mp hT
  refine ⟨f, hf, ?_⟩
  rw [followTrace_of hf]
  cases hd : f.doing with
  | handling is =>
    simp only [hd] at hT
    cases is with
    | nil =>
      cases hT
      rw [lacking_agent, followerTrace, hd]
      exact .waits hd
    | cons i is => exact handle_followStep hd hT
  | sending is =>
    simp only [hd] at hT
    split at hT
    · cases hT
    · next hb =>
      cases hT
      rw [followerTrace, hd]
      exact .resumes (.inl ⟨hd, eq_false_of_ne_true hb⟩)
  | pausing till is =>
    simp only [hd] at hT
    split at hT
    · next hl =>
      cases hT
      rw [followerTrace, hd]
      exact .resumes (.inr ⟨till, hl, hd⟩)
    · cases hT
  | asking | reading =>
    simp only [hd] at hT
    cases hT

theorem follow_eq_none (hf : a.follower = some f) (hT : a.follow t = none) :
    f.doing = .asking ∨ f.doing = .reading ∨
      (∃ is, f.doing = .sending is ∧ a.manager.blocks watcher = true) ∨
      ∃ till is, f.doing = .pausing till is ∧ t < till := by
  simp only [follow, hf, Option.bind_eq_bind, Option.bind_some] at hT
  cases hd : f.doing with
  | handling is =>
    simp only [hd] at hT
    cases is with
    | nil => cases hT
    | cons i is =>
      simp only [handle] at hT
      split at hT
      · cases hT
      · cases hT
      · cases hT
  | sending is =>
    simp only [hd] at hT
    split at hT
    · next hb => exact .inr (.inr (.inl ⟨is, rfl, hb⟩))
    · cases hT
  | pausing till is =>
    simp only [hd] at hT
    split at hT
    · cases hT
    · next hl => exact .inr (.inr (.inr ⟨till, is, rfl, by omega⟩))
  | asking => exact .inl rfl
  | reading => exact .inr (.inl rfl)

section Traces

variable {U : Trace} {is : List Item} {watched : ObjectKey}

theorem append_signals : (S ++ U).signals = S.signals ++ U.signals := rfl

theorem append_items : (S ++ U).items = S.items ++ U.items := rfl

theorem append_actions : (S ++ U).actions = S.actions ++ U.actions := rfl

theorem append_history : (S ++ U).history = S.history ++ U.history := rfl

theorem append_none (S : Trace) : S ++ {} = S := by
  change Trace.append S {} = S
  simp [Trace.append]

theorem append_sent : (S ++ U).sent = S.sent ++ U.sent := by
  simp only [Trace.sent, append_actions, List.filterMap_append, List.filter_append, List.map_append]

theorem actTrace_sent (hx : ∀ e, x ≠ .send watcher e) : (a.actTrace t x).sent = [] := by
  cases x with
  | send id e =>
    have hi : id ≠ watcher := fun hi => hx e (by rw [hi])
    simp [Trace.sent, actTrace, Manager.Action.post?, hi]
  | start | fire | receive | tick | answer => rfl

/-- The items that were taken up and those at hand are those that the watch has yielded. A follower
that has begun to ask may be one item ahead. -/
inductive Accounted (is : List Item) (S : Trace) (f : Follower) : Prop where
  | rests : f.doing ≠ .asking → f.watcher.watch = Watch.after .fresh S.signals →
      S.items ++ f.pending = is ++ Watch.items .fresh S.signals → Accounted is S f
  | asked : f.watcher.watch = (Watch.after .fresh S.signals).ask.2.1 →
      S.items ++ f.pending
        = is ++ Watch.items .fresh S.signals ++ (Watch.after .fresh S.signals).ask.1 →
      Accounted is S f

theorem Accounted.keep (hs : Accounted is S f) (hr : U.signals = [])
    (hw : g.watcher.watch = f.watcher.watch) (hp : U.items ++ g.pending = f.pending)
    (hd : g.doing = .asking → f.doing = .asking) : Accounted is (S ++ U) g := by
  have hn : (S ++ U).signals = S.signals := by rw [append_signals, hr, List.append_nil]
  have hi : (S ++ U).items ++ g.pending = S.items ++ f.pending := by
    rw [append_items, List.append_assoc, hp]
  cases hs with
  | rests ha hf he => exact .rests (mt hd ha) (by rw [hw, hf, hn]) (by rw [hi, he, hn])
  | asked hf he => exact .asked (by rw [hw, hf, hn]) (by rw [hi, he, hn])

theorem Accounted.learns {r : Signal}
    (hs : S.items = is ++ Watch.items .fresh S.signals ++ (Watch.after .fresh S.signals).ask.1)
    (hw : g.watcher.watch = ((Watch.after .fresh S.signals).ask.2.1.hear r).2)
    (hd : g.doing = .handling ((Watch.after .fresh S.signals).ask.2.1.hear r).1) :
    Accounted is (S ++ { signals := [r] }) g := by
  have hp : g.pending = ((Watch.after .fresh S.signals).ask.2.1.hear r).1 := by
    rw [Follower.pending, hd]
  apply Accounted.rests
  · rw [hd]
    nofun
  · rw [append_signals, Watch.after_concat, hw]
  · rw [append_signals, Watch.items_concat, append_items, hp, List.append_nil, hs]
    simp only [List.append_assoc]

/-- With nothing at hand the watch is asked to go on, again if it was already. -/
theorem Accounted.next (hs : Accounted is S f) (hp : f.pending = []) :
    f.watcher.watch.ask.2.1 = (Watch.after .fresh S.signals).ask.2.1 ∧
      S.items ++ f.watcher.watch.ask.1
        = is ++ Watch.items .fresh S.signals ++ (Watch.after .fresh S.signals).ask.1 := by
  cases hs with
  | rests _ hw hi =>
    rw [hp, List.append_nil] at hi
    rw [hw, hi]
    exact ⟨rfl, rfl⟩
  | asked hw hi =>
    obtain ⟨ha, hb⟩ := Watch.ask_ask (Watch.after .fresh S.signals)
    rw [hp] at hi
    rw [hw, ha, hb]
    exact ⟨rfl, hi⟩

theorem Accounted.waits {ss : List Signal} (hs : Accounted is S f) (hp : f.pending = [])
    (hw : Follower.Waits f ss g) : Accounted is (S ++ { signals := ss }) g := by
  obtain ⟨hn, hi⟩ := hs.next hp
  cases hw with
  | asks hw hd =>
    have hg : g.pending = f.watcher.watch.ask.1 := by
      obtain hd | ⟨ha, hd | hd⟩ := hd
      · rw [Follower.pending, hd]
      · rw [Follower.pending, hd, ha]
      · rw [Follower.pending, hd, ha]
    apply Accounted.asked
    · rw [append_signals, List.append_nil, hw, hn]
    · rw [append_signals, List.append_nil, append_items, List.append_nil, hg, hi]
  | learns ha hw hd =>
    rw [ha, List.append_nil] at hi
    rw [hn] at hw hd
    exact .learns hi (by rw [hw]) hd

theorem Accounted.hear (hs : Accounted is S f) (hd : f.doing = .asking) (r : Signal) :
    Accounted is (S ++ { signals := [r] }) (f.hear r) := by
  cases hs with
  | rests hn => exact absurd hd hn
  | asked hw hi =>
    have hp : f.pending = [] := by rw [Follower.pending, hd]
    rw [hp, List.append_nil] at hi
    apply Accounted.learns hi
    · rw [← hw]
      rfl
    · rw [← hw]
      rfl

/-- What is known of the follower at any time of a run, and of what it has sent to the manager. -/
structure Relaying (watched : ObjectKey) (is : List Item) (S : Trace) (t : Nat) (a : Agent)
    (f : Follower) : Prop where
  follower : a.follower = some f
  key : f.watcher.watched = watched
  relays : Relays watched S.items S.sent
  accounted : Accounted is S f
  soon : ∀ u js, f.doing = .pausing u js → u ≤ t + Pauses.longest
  alone : a.manager.blocks watcher = true → ∃ js, f.doing = .sending js

theorem Relaying.takes {i : Item} {js : List Item} {w : Watcher} {r : Reaction} {d : Doing}
    (hs : Relaying watched is S t a f) (hd : f.doing = .handling (i :: js))
    (hr : f.watcher.react t i = (r, w)) (hU : U.items = [i]) (hl : U.signals = [])
    (he : U.sent = r.sent?.toList) (hb : b.follower = some { f with watcher := w, doing := d })
    (hp : d = .handling js ∨ d = .sending js ∨ ∃ n l, r = .pause l n ∧ d = .pausing (t + n) js)
    (ha : b.manager.blocks watcher = true → ∃ js, d = .sending js) :
    Relaying watched is (S ++ U) t b { f with watcher := w, doing := d } := by
  obtain ⟨hw, hv⟩ := Watcher.react_keeps hr
  have hf : f.pending = i :: js := by rw [Follower.pending, hd]
  refine ⟨hb, hw.trans hs.key, ?_, ?_, fun u ks hk => ?_, ha⟩
  · rw [append_items, append_sent, hU, he]
    apply hs.relays.append
    rw [← hs.key]
    exact (Watcher.react_itemEvent hr).relays
  · apply hs.accounted.keep hl hv
    · rw [hf, hU]
      obtain rfl | rfl | ⟨n, l, -, rfl⟩ := hp <;> rfl
    · obtain rfl | rfl | ⟨n, l, -, rfl⟩ := hp <;> nofun
  · obtain rfl | rfl | ⟨n, l, rfl, rfl⟩ := hp
    · cases hk
    · cases hk
    · cases hk
      have hn := Watcher.react_pauses hr
      omega

theorem Relaying.takes_none (hs : Relaying watched is S t a f)
    (hw : g.watcher.watched = f.watcher.watched) (hU : U.items = []) (he : U.sent = [])
    (hb : b.follower = some g) (hn : Accounted is (S ++ U) g)
    (hp : ∀ u js, g.doing = .pausing u js → f.doing = .pausing u js)
    (ha : b.manager.blocks watcher = true → ∃ js, g.doing = .sending js) :
    Relaying watched is (S ++ U) t b g := by
  refine ⟨hb, hw.trans hs.key, ?_, hn, fun u js hd => hs.soon u js (hp u js hd), ha⟩
  rw [append_items, append_sent, hU, he, List.append_nil, List.append_nil]
  exact hs.relays

theorem Relaying.free {d : Doing} (hs : Relaying watched is S t a f)
    (hd : ∀ js, f.doing ≠ .sending js) (hb : a.manager.blocks watcher = true) :
    ∃ js, d = .sending js := by
  obtain ⟨js, hj⟩ := hs.alone hb
  exact absurd hj (hd js)

theorem followStep_relaying (hs : Relaying watched is S t a f) (hg : FollowStep t a f U b) :
    ∃ g, Relaying watched is (S ++ U) t b g := by
  cases hg with
  | waits hd =>
    have hp : f.pending = [] := by rw [Follower.pending, hd]
    have hw := Follower.wait_waits hd
    have hn := hs.accounted.waits hp hw
    generalize f.wait.1 = g at hw hn ⊢
    generalize f.learnsNext = ss at hw hn ⊢
    refine ⟨g, hs.takes_none ?_ rfl rfl rfl hn (fun u js he => ?_) (hs.free (by simp [hd]))⟩
    · cases hw with
      | asks hw | learns _ hw => rw [hw]
    · cases hw with
      | asks _ hd => obtain hd | ⟨-, hd | hd⟩ := hd <;> simp [hd] at he
      | learns _ _ hd => simp [hd] at he
  | skips hd hr =>
    exact ⟨_, hs.takes hd hr rfl rfl rfl rfl (.inl rfl) (hs.free (by simp [hd]))⟩
  | sends hd hr hx =>
    exact ⟨_, hs.takes hd hr rfl rfl rfl rfl (.inr (.inl rfl)) fun _ => ⟨_, rfl⟩⟩
  | pauses hd hr =>
    exact ⟨_, hs.takes hd hr rfl rfl rfl rfl (.inr (.inr ⟨_, _, rfl, rfl⟩))
      (hs.free (by simp [hd]))⟩
  | @resumes js hd =>
    refine ⟨{ f with doing := .handling js }, hs.takes_none rfl rfl rfl rfl ?_ nofun fun hm => ?_⟩
    · refine hs.accounted.keep (U := {}) rfl rfl ?_ nofun
      obtain ⟨hd, -⟩ | ⟨u, -, hd⟩ := hd <;> simp [Follower.pending, hd]
    · obtain ⟨-, hb⟩ | ⟨u, -, hd⟩ := hd
      · cases hb.symm.trans hm
      · exact hs.free (by simp [hd]) hm

theorem Relaying.hears {js : List Item} (hs : Relaying watched is S t a f)
    (φ : Follower → Follower) (hd : f.doing = .asking ∨ f.doing = .reading)
    (hw : (φ f).watcher.watched = f.watcher.watched) (hU : U.items = []) (he : U.sent = [])
    (hn : Accounted is (S ++ U) (φ f)) (hj : (φ f).doing = .handling js) :
    ∃ g, Relaying watched is (S ++ U) t (a.tell φ) g := by
  have hb : (a.tell φ).follower = some (φ f) := congrArg (Option.map φ) hs.follower
  refine ⟨φ f, hs.takes_none hw hU he hb hn (fun u ks hk => ?_) (hs.free fun ks hk => ?_)⟩
  · cases hj.symm.trans hk
  · obtain hd | hd := hd <;> cases hd.symm.trans hk

theorem Relaying.reads (hs : Relaying watched is S t a f) (φ : Follower → Follower)
    (hd : f.doing = .reading) (hw : (φ f).watcher = f.watcher)
    (hj : (φ f).doing = .handling []) : ∃ g, Relaying watched is S t (a.tell φ) g := by
  have hp : (φ f).pending = f.pending := by rw [Follower.pending, Follower.pending, hd, hj]
  have hn : Accounted is (S ++ {}) (φ f) :=
    hs.accounted.keep rfl (by rw [hw]) hp fun ha => by cases hj.symm.trans ha
  rw [← append_none S]
  exact hs.hears φ (.inr hd) (by rw [hw]) rfl rfl hn hj

theorem Relaying.acts {m : Manager} (hs : Relaying watched is S t a f)
    (hx : ∀ e, x ≠ .send watcher e)
    (hb : m.blocks watcher = true → a.manager.blocks watcher = true) :
    Relaying watched is (S ++ a.actTrace t x) t { a with manager := m } f :=
  hs.takes_none rfl rfl (actTrace_sent hx) hs.follower (hs.accounted.keep rfl rfl rfl id)
    (fun _ _ => id)
    fun hm => hs.alone (hb hm)

theorem Relaying.later (hs : Relaying watched is S t a f) (hu : t ≤ u) :
    Relaying watched is S u a f := by
  refine { hs with soon := fun v js hd => ?_ }
  have hv := hs.soon v js hd
  omega

end Traces

section Runs

variable {s s' : Nat × Agent} {is : List Item} {cluster watched : ObjectKey} {period : Nat}

theorem FollowStep.acts {U : Trace} {p : Nat × Manager} (hg : FollowStep t a f U b)
    (ha : Manager.Acts p S.actions S.history (t, a.manager)) :
    Manager.Acts p (S ++ U).actions (S ++ U).history (t, b.manager) := by
  rw [append_actions, append_history]
  cases hg with
  | sends _ _ hx => exact ha.act hx
  | waits | skips | pauses | resumes =>
    rw [List.append_nil, List.append_nil]
    exact ha

theorem Run.acts (hr : Run s S s') :
    Manager.Acts (s.1, s.2.manager) S.actions S.history (s'.1, s'.2.manager) := by
  induction hr with
  | refl => exact .refl
  | act x _ _ hT ih =>
    obtain ⟨m, ns, hx, he⟩ := act_ok hT
    rw [append_actions, append_history, he]
    simp only [actTrace, hx, Option.elim_some]
    exact ih.act hx
  | follow _ hT ih =>
    obtain ⟨f, -, hg⟩ := follow_followStep hT
    exact hg.acts ih
  | hear r _ _ _ ih =>
    rw [append_actions, append_history, List.append_nil, List.append_nil]
    exact ih
  | receive _ _ _ _ ih | finish _ _ _ ih => exact ih
  | wait _ hu hq ih => exact ih.wait hu hq

theorem run_relaying (hr : Run (0, opened cluster watched period is) S (t, a)) :
    ∃ f, Relaying watched is S t a f := by
  generalize hs : (0, opened cluster watched period is) = s at hr
  generalize he : (t, a) = s' at hr
  induction hr generalizing t a with
  | refl =>
    cases hs
    cases he
    refine ⟨_, rfl, rfl, .nil, .rests nofun rfl ?_, nofun, nofun⟩
    exact (List.append_nil _).symm
  | act x hr hx hT ih =>
    cases he
    cases hs
    obtain ⟨f, hf⟩ := ih rfl
    have ha := (hr.act x hx hT).acts
    obtain ⟨m, ns, hm, hn⟩ := act_ok hT
    rw [hn] at ha ⊢
    -- a manager that has stopped lets nobody wait, and no other step makes the watcher wait
    refine ⟨f, hf.acts hx fun hb => Manager.step_blocks hm hx (fun hp => ?_) hb⟩
    have hq := ((Manager.run_queue ha.run).2 hp).2
    rw [Manager.blocks, hq] at hb
    cases hb
  | follow _ hT ih =>
    cases he
    obtain ⟨f, hf⟩ := ih rfl
    obtain ⟨g, hg, hU⟩ := follow_followStep hT
    cases hf.follower.symm.trans hg
    exact followStep_relaying hf hU
  | hear r _ hg hd ih =>
    cases he
    obtain ⟨f, hf⟩ := ih rfl
    cases hf.follower.symm.trans hg
    exact hf.hears _ (.inl hd) rfl rfl rfl (hf.accounted.hear hd r) rfl
  | receive bs _ hg hd ih =>
    cases he
    obtain ⟨f, hf⟩ := ih rfl
    cases hf.follower.symm.trans hg
    exact hf.reads _ hd rfl rfl
  | finish _ hg hd ih =>
    cases he
    obtain ⟨f, hf⟩ := ih rfl
    cases hf.follower.symm.trans hg
    exact hf.reads _ hd rfl rfl
  | wait _ hu _ ih =>
    cases he
    obtain ⟨f, hf⟩ := ih rfl
    exact ⟨f, hf.later hu⟩

/-- The watcher of a run owes nothing, keeps nothing back and goes on. `relays` and `yielded` are
about the items so far, `whole` about a follower that has taken up all; `delivered` says that what
it sent came in or still waits for room, `received` that a manager at rest has taken it. -/
structure Faithful (watched : ObjectKey) (is : List Item) (S : Trace) (t : Nat) (a : Agent)
    (f : Follower) : Prop where
  relays : Relays watched S.items S.sent
  yielded : S.items ++ f.pending = is ++ Watch.items .fresh S.signals ∨
    S.items ++ f.pending = is ++ Watch.items .fresh S.signals ++ [.ok .init]
  whole : f.pending = [] → Relays watched (is ++ Watch.items .fresh S.signals) S.sent
  delivered : a.manager.phase ≠ .stopped →
    ((S.history.accepted ++ a.manager.blocked).filter (·.sender = .outside watcher)).map (·.event)
      = S.sent
  received : a.manager.phase = .waiting → a.manager.step? t .receive = none →
    (S.history.taken.filter (·.sender = .outside watcher)).map (·.event) = S.sent
  rests : a.follow t = none → f.doing = .asking ∨ f.doing = .reading ∨
    (∃ js, f.doing = .sending js ∧ a.manager.blocks watcher = true) ∨
    ∃ u js, f.doing = .pausing u js ∧ t < u ∧ u ≤ t + Pauses.longest
  alone : a.manager.blocks watcher = true → ∃ js, f.doing = .sending js
  keys : (∀ id e, .send id e ∈ S.actions → id = watcher) →
    ∀ b ∈ S.history.begun, b.2.2 = watched

theorem Accounted.yielded (hs : Accounted is S f) :
    S.items ++ f.pending = is ++ Watch.items .fresh S.signals ∨
      S.items ++ f.pending = is ++ Watch.items .fresh S.signals ++ [.ok .init] := by
  cases hs with
  | rests _ _ hi => exact .inl hi
  | asked _ hi =>
    obtain ha | ha := (Watch.after .fresh S.signals).ask_items
    · rw [ha, List.append_nil] at hi
      exact .inl hi
    · rw [ha] at hi
      exact .inr hi

theorem Run.delivered (hr : Run (0, opened cluster watched period is) S (t, a))
    (hp : a.manager.phase ≠ .stopped) :
    ((S.history.accepted ++ a.manager.blocked).filter (·.sender = .outside watcher)).map (·.event)
      = S.sent := by
  have ho : (S.history.accepted ++ a.manager.blocked).filter Post.outside
      = S.actions.filterMap Manager.Action.post? := Manager.run_outside hr.acts hp
  rw [Trace.sent, ← ho, List.filter_filter]
  congr 1
  apply List.filter_congr
  intro p _
  obtain ⟨s, e⟩ := p
  cases s <;> simp [Post.outside, Sender.retry?]

theorem Run.keys (hr : Run (0, opened cluster watched period is) S (t, a))
    (hk : ∀ e ∈ S.sent, e.key = watched) (ha : ∀ id e, .send id e ∈ S.actions → id = watcher) :
    ∀ b ∈ S.history.begun, b.2.2 = watched := by
  have ho : Manager.Keyed (· = watched) (opened cluster watched period is).manager :=
    ⟨rfl, nofun, nofun, nofun, nofun⟩
  refine (Manager.acts_keyed ho hr.acts fun p hp => ?_).2
  apply hk
  obtain ⟨x, hx, hp'⟩ := List.mem_filterMap.mp hp
  cases x with
  | send id e =>
    cases hp'
    exact List.mem_map.mpr ⟨_, List.mem_filter.mpr ⟨hp, by simp [ha id e hx]⟩, rfl⟩
  | start | fire | receive | tick | answer => cases hp'

theorem Run.received (hr : Run (0, opened cluster watched period is) S (t, a))
    (hp : a.manager.phase = .waiting) (hx : a.manager.step? t .receive = none) :
    (S.history.taken.filter (·.sender = .outside watcher)).map (·.event) = S.sent := by
  have hm := hr.acts.run
  obtain ⟨hi, hb⟩ := (Manager.run_coherent hm).idle hp hx
  have hn : a.manager.phase ≠ .stopped := by simp [hp]
  have hq : S.history.accepted = S.history.taken ++ a.manager.inbox := (Manager.run_queue hm).1 hn
  rw [hi, List.append_nil] at hq
  rw [← hr.delivered hn, hb, List.append_nil, hq]

theorem watcher_faithful (hr : Run (0, opened cluster watched period is) S (t, a)) :
    ∃ f, a.follower = some f ∧ Faithful watched is S t a f := by
  obtain ⟨f, hf⟩ := run_relaying hr
  have hy := hf.accounted.yielded
  refine ⟨f, hf.follower, hf.relays, hy, fun hp => ?_, hr.delivered, hr.received, fun hn => ?_,
    hf.alone, hr.keys hf.relays.keys⟩
  · have hs := hf.relays
    rw [hp, List.append_nil] at hy
    obtain hy | hy := hy <;> rw [hy] at hs
    · exact hs
    · exact hs.dropInit
  · obtain hd | hd | hd | ⟨u, js, hd, hu⟩ := follow_eq_none hf.follower hn
    · exact .inl hd
    · exact .inr (.inl hd)
    · exact .inr (.inr (.inl hd))
    · exact .inr (.inr (.inr ⟨u, js, hd, hu, hf.soon u js hd⟩))

section Relisting

inductive Cue where
  | own (x : Manager.Action)
  | follow
  | hear (r : Signal)
  | wait (u : Nat)

def turn? : Trace × Nat × Agent → Cue → Option (Trace × Nat × Agent)
  | (S, t, a), .own x =>
    if (x.post?.all (·.sender ≠ .outside watcher)) = true then
      (a.act t x).map fun T => (S ++ a.actTrace t x, t, T.agent)
    else none
  | (S, t, a), .follow => (a.follow t).map fun T => (S ++ a.followTrace t, t, T.agent)
  | (S, t, a), .hear r =>
    a.follower.bind fun f =>
      match f.doing with
      | .asking => some (S ++ { signals := [r] }, t, a.tell (·.hear r))
      | _ => none
  | (S, t, a), .wait u => if t ≤ u ∧ a.manager.IdleUntil u then some (S, u, a) else none

theorem turn_run {c : Cue} {U : Trace} {p : Nat × Agent} (hr : Run s S s')
    (hc : turn? (S, s') c = some (U, p)) : Run s U p := by
  obtain ⟨t, a⟩ := s'
  cases c with
  | own x =>
    simp only [turn?] at hc
    split at hc
    · next hx =>
      obtain ⟨T, hT, he⟩ := Option.map_eq_some_iff.mp hc
      cases he
      refine hr.act x (fun e he => ?_) hT
      rw [he] at hx
      cases hx
    · cases hc
  | follow =>
    obtain ⟨T, hT, he⟩ := Option.map_eq_some_iff.mp hc
    cases he
    exact hr.follow hT
  | hear r =>
    obtain ⟨f, hf, hc⟩ := Option.bind_eq_some_iff.mp hc
    split at hc
    · next hd =>
      cases hc
      exact hr.hear r hf hd
    · cases hc
  | wait u =>
    simp only [turn?] at hc
    split at hc
    · next hu =>
      cases hc
      exact hr.wait hu.1 hu.2
    · cases hc

theorem turns_run {cs : List Cue} {U : Trace} {p : Nat × Agent} (hr : Run s S s')
    (hc : cs.foldlM turn? (S, s') = some (U, p)) : Run s U p := by
  induction cs generalizing S s' with
  | nil =>
    cases hc
    exact hr
  | cons c cs ih =>
    rw [List.foldlM_cons] at hc
    obtain ⟨⟨V, q⟩, hq, hc⟩ := Option.bind_eq_some_iff.mp hc
    exact ih (turn_run hr hq) hc

def hourly : Controller := ⟨default, ⟨"prod", "fleet"⟩, ⟨"agent", "addon"⟩, 3600⟩

/-- The first listing fails; the second finds no service account, and is reconciled. -/
theorem empty_listing_reconciled : ∃ S a f,
    Run (0, (opening hourly.manager true).agent) S (800, a) ∧
      a.follower = some f ∧ f.pending = [] ∧
      Relays ⟨"agent", "addon"⟩ (Watch.items .fresh S.signals) S.sent ∧
      S.sent = [⟨⟨"agent", "addon"⟩, .relisted⟩] ∧ S.history.begun.length = 2 ∧
      ∀ b ∈ S.history.begun, b.2.2 = ⟨"agent", "addon"⟩ := by
  rw [controller_opened]
  have hx : ([.own .start, .own (.answer (.error "refused")), .follow, .follow, .follow,
      .hear (.page (.error (.transport "refused"))), .follow, .wait 800, .follow, .follow, .follow,
      .follow, .hear (.page (.ok ⟨[], some "7", none⟩)), .follow, .follow, .own .receive].foldlM
      turn? ({}, 0, opened hourly.cluster hourly.watched (1000 * hourly.resyncSeconds) [])).any
      (fun s =>
        s.2.1 = 800 ∧ s.1.sent = [⟨⟨"agent", "addon"⟩, .relisted⟩] ∧
        s.1.history.begun.length = 2 ∧
        (s.2.2.follower.any fun f => f.pending.isEmpty) ∧
        s.1.actions.all fun x => x.post?.all (·.sender = .outside watcher)) = true := by
    decide +kernel
  obtain ⟨⟨S, t, a⟩, hs, hq⟩ := (Option.any_eq_true _ _).mp hx
  simp only [decide_eq_true_eq] at hq
  obtain ⟨rfl, hs', hb, hp, ha⟩ := hq
  have hr := turns_run .refl hs
  obtain ⟨f, hf, hw⟩ := watcher_faithful hr
  rw [hf, Option.any_some, List.isEmpty_iff] at hp
  refine ⟨S, a, f, hr, hf, hp, hw.whole hp, hs', hb, hw.keys fun id e he => ?_⟩
  have hi := List.all_eq_true.mp ha _ he
  simpa [Manager.Action.post?] using hi

end Relisting

end Runs

end Agent

end TokenCourier
