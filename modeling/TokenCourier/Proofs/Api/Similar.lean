import TokenCourier.Proofs.Api.Dialogue

namespace TokenCourier

/-- What an observer sees of requests, which lines it skips, and by which answers two runs may
differ. -/
structure View where
  request : Server → Request → Request
  skips : LogLine → Bool
  Swaps : Server → Request → Answer → Answer → Prop

namespace View

variable (V : View)

def entry? : Entry → Option Entry
  | .log l => if V.skips l then none else some (.log l)
  | .sent s r => some (.sent s (V.request s r))

def seen (es : List Entry) : List Entry := es.filterMap V.entry?

def lines (ls : List LogLine) : List LogLine := ls.filter (!V.skips ·)

/-- Related states answer requests that look alike by answers that may differ, and stay related. -/
def ServeAlike {σ τ : Type} (S : σ → τ → Prop) (serve : σ → Server → Request → Answer × σ)
    (serve' : τ → Server → Request → Answer × τ) : Prop :=
  ∀ st st' s r q, S st st' → V.request s r = V.request s q →
    V.Swaps s r (serve st s r).1 (serve' st' s q).1 ∧ S (serve st s r).2 (serve' st' s q).2

variable {V}

theorem seen_cons {e e' : Entry} {es es' : List Entry} (he : V.entry? e = V.entry? e')
    (hs : V.seen es = V.seen es') : V.seen (e :: es) = V.seen (e' :: es') := by
  rw [seen, List.filterMap_cons, he, ← seen, hs, seen, seen, List.filterMap_cons]

theorem seen_skipped {l : LogLine} (hl : V.skips l = true) (es : List Entry) :
    V.seen (.log l :: es) = V.seen es := by
  simp [seen, entry?, hl]

theorem lines_cons {ls ls' : List LogLine} (l : LogLine) (hs : V.lines ls = V.lines ls') :
    V.lines (l :: ls) = V.lines (l :: ls') := by
  rw [lines, List.filter_cons, ← lines, hs, lines, lines, List.filter_cons]

theorem lines_skipped {l : LogLine} (hl : V.skips l = true) (ls : List LogLine) :
    V.lines (l :: ls) = V.lines ls := by
  simp [lines, hl]

end View

namespace Exchange

variable {α β γ δ σ τ : Type} {V : View}

/-- The programs show the same to the view, and go on so after any answers that may differ. -/
inductive Similar (V : View) (R : α → β → Prop) : Exchange α → Exchange β → Prop where
  | done {a b} : R a b → Similar V R (.done a) (.done b)
  | log {l x y} : Similar V R x y → Similar V R (.log l x) (.log l y)
  | left {l x y} : V.skips l = true → Similar V R x y → Similar V R (.log l x) y
  | right {l x y} : V.skips l = true → Similar V R x y → Similar V R x (.log l y)
  | ask {s r q f g} : V.request s r = V.request s q →
      (∀ a b, V.Swaps s r a b → Similar V R (f a) (g b)) → Similar V R (.ask s r f) (.ask s q g)

namespace Similar

variable {R : α → β → Prop} {T : γ → δ → Prop} {x : Exchange α} {y : Exchange β}

theorem bind {f : α → Exchange γ} {g : β → Exchange δ} (h : Similar V R x y)
    (hf : ∀ a b, R a b → Similar V T (f a) (g b)) : Similar V T (x >>= f) (y >>= g) := by
  induction h with
  | done hr => exact hf _ _ hr
  | log _ ih => exact .log ih
  | left hl _ ih => exact .left hl ih
  | right hl _ ih => exact .right hl ih
  | ask hq _ ih => exact .ask hq ih

theorem info {text : String} {f : Unit → Exchange α} {g : Unit → Exchange β}
    (h : Similar V R (f ()) (g ())) :
    Similar V R (Exchange.info text >>= f) (Exchange.info text >>= g) :=
  .log h

theorem call {s : Server} {r q : Request} {read : Answer → Except ClientError α}
    {read' : Answer → Except ClientError β} {R : Except ClientError α → Except ClientError β → Prop}
    (hq : V.request s r = V.request s q) (hr : ∀ a b, V.Swaps s r a b → R (read a) (read' b)) :
    Similar V R (Exchange.call s (.ok r) read) (Exchange.call s (.ok q) read') :=
  .ask hq fun a b h => .done (hr a b h)

theorem call_same {s : Server} {req : Except RequestFault Request}
    {read : Answer → Except ClientError α} {read' : Answer → Except ClientError β}
    {R : Except ClientError α → Except ClientError β → Prop}
    (he : ∀ f, R (.error (.request f)) (.error (.request f)))
    (hr : ∀ r a b, req = .ok r → V.Swaps s r a b → R (read a) (read' b)) :
    Similar V R (Exchange.call s req read) (Exchange.call s req read') := by
  cases req with
  | error f => exact .done (he f)
  | ok r => exact .call rfl fun a b => hr r a b rfl

theorem mapM {κ : Type} {f g : κ → Exchange α} (h : ∀ k, Similar V Eq (f k) (g k)) (ks : List κ) :
    Similar V Eq (ks.mapM f) (ks.mapM g) := by
  induction ks with
  | nil =>
    rw [List.mapM_nil, List.mapM_nil]
    exact .done rfl
  | cons k ks ih =>
    rw [List.mapM_cons, List.mapM_cons]
    refine (h k).bind ?_
    rintro a _ rfl
    refine ih.bind ?_
    rintro as _ rfl
    exact .done rfl

/-- Before servers that answer alike, similar programs show the same and have related results. -/
theorem run {S : σ → τ → Prop} {serve : σ → Server → Request → Answer × σ}
    {serve' : τ → Server → Request → Answer × τ} (h : Similar V R x y)
    (ht : V.ServeAlike S serve serve') {st : σ} {st' : τ} (hs : S st st') :
    R (x.run serve st).1 (y.run serve' st').1 ∧
      V.seen (x.run serve st).2.1 = V.seen (y.run serve' st').2.1 ∧
      S (x.run serve st).2.2 (y.run serve' st').2.2 := by
  induction h generalizing st st' with
  | done hr => exact ⟨hr, rfl, hs⟩
  | log _ ih =>
    obtain ⟨hr, hv, hs⟩ := ih hs
    exact ⟨hr, View.seen_cons rfl hv, hs⟩
  | left hl _ ih =>
    obtain ⟨hr, hv, hs⟩ := ih hs
    exact ⟨hr, (View.seen_skipped hl _).trans hv, hs⟩
  | right hl _ ih =>
    obtain ⟨hr, hv, hs⟩ := ih hs
    exact ⟨hr, hv.trans (View.seen_skipped hl _).symm, hs⟩
  | ask hq _ ih =>
    obtain ⟨hw, hn⟩ := ht _ _ _ _ _ hs hq
    obtain ⟨hr, hv, hs⟩ := ih _ _ hw hn
    exact ⟨hr, View.seen_cons (congrArg (fun r => some (Entry.sent _ r)) hq) hv, hs⟩

theorem advance (h : Similar V R x y) :
    V.lines x.advance.1 = V.lines y.advance.1 ∧ Similar V R x.advance.2.rest y.advance.2.rest := by
  induction h with
  | done hr => exact ⟨rfl, .done hr⟩
  | log _ ih =>
    obtain ⟨hl, hr⟩ := ih
    exact ⟨View.lines_cons _ hl, hr⟩
  | left hl _ ih =>
    obtain ⟨hs, hr⟩ := ih
    exact ⟨(View.lines_skipped hl _).trans hs, hr⟩
  | right hl _ ih =>
    obtain ⟨hs, hr⟩ := ih
    exact ⟨hs.trans (View.lines_skipped hl _).symm, hr⟩
  | ask hq hf => exact ⟨rfl, .ask hq hf⟩

end Similar

end Exchange

end TokenCourier
