import Mathlib
import TokenCourier.Watch.Follower

namespace TokenCourier

/-- What an item is to the manager: an account appeared, was found in a listing or is gone, or a
listing is complete. -/
inductive ItemEvent (watched : ObjectKey) : Item → Option SyncEvent → Prop where
  | applied {sa} : watched.matches sa = true →
      ItemEvent watched (.ok (.apply sa)) (some ⟨watched, .applied⟩)
  | found {sa} : watched.matches sa = true →
      ItemEvent watched (.ok (.initApply sa)) (some ⟨watched, .applied⟩)
  | deleted {sa} : watched.matches sa = true →
      ItemEvent watched (.ok (.delete sa)) (some ⟨watched, .deleted⟩)
  | relisted : ItemEvent watched (.ok .initDone) (some ⟨watched, .relisted⟩)
  | stranger {sa e} : watched.matches sa = false →
      e = .apply sa ∨ e = .initApply sa ∨ e = .delete sa → ItemEvent watched (.ok e) none
  | begins : ItemEvent watched (.ok .init) none
  | fails {e} : ItemEvent watched (.error e) none

/-- These events, and no others, are owed for these items, each once and in this order. -/
inductive Relays (watched : ObjectKey) : List Item → List SyncEvent → Prop where
  | nil : Relays watched [] []
  | sends {i e is es} : ItemEvent watched i (some e) → Relays watched is es →
      Relays watched (i :: is) (e :: es)
  | skips {i is es} : ItemEvent watched i none → Relays watched is es → Relays watched (i :: is) es

section Relay

variable {watched : ObjectKey} {i : Item} {is js : List Item} {o : Option SyncEvent}
  {es fs : List SyncEvent}

theorem ItemEvent.key {e : SyncEvent} (ht : ItemEvent watched i (some e)) : e.key = watched := by
  cases ht <;> rfl

theorem itemEvent_news (watched : ObjectKey) (i : Item) :
    ItemEvent watched i (i.toOption.bind (·.news? watched)) := by
  cases i with
  | error e => exact .fails
  | ok e =>
    cases e with
    | init => exact .begins
    | initDone => exact .relisted
    | apply sa =>
      simp only [Except.toOption, Option.bind_some, WatchEvent.news?]
      split
      · next hm => exact .applied hm
      · next hm => exact .stranger (eq_false_of_ne_true hm) (.inl rfl)
    | initApply sa =>
      simp only [Except.toOption, Option.bind_some, WatchEvent.news?]
      split
      · next hm => exact .found hm
      · next hm => exact .stranger (eq_false_of_ne_true hm) (.inr (.inl rfl))
    | delete sa =>
      simp only [Except.toOption, Option.bind_some, WatchEvent.news?]
      split
      · next hm => exact .deleted hm
      · next hm => exact .stranger (eq_false_of_ne_true hm) (.inr (.inr rfl))

theorem ItemEvent.news (ht : ItemEvent watched i o) : i.toOption.bind (·.news? watched) = o := by
  cases ht with
  | applied hm | found hm | deleted hm => exact if_pos hm
  | relisted | begins | fails => rfl
  | stranger hm he =>
    have hn : ¬ watched.matches _ = true := ne_true_of_eq_false hm
    obtain rfl | rfl | rfl := he <;> exact if_neg hn

theorem Relays.keys (hr : Relays watched is es) : ∀ e ∈ es, e.key = watched := by
  induction hr with
  | nil => nofun
  | sends ht _ ih => exact List.forall_mem_cons.mpr ⟨ht.key, ih⟩
  | skips _ _ ih => exact ih

theorem Relays.append (hi : Relays watched is es) (hj : Relays watched js fs) :
    Relays watched (is ++ js) (es ++ fs) := by
  induction hi with
  | nil => exact hj
  | sends ht _ ih => exact .sends ht ih
  | skips ht _ ih => exact .skips ht ih

theorem ItemEvent.relays (ht : ItemEvent watched i o) : Relays watched [i] o.toList := by
  cases o with
  | none => exact .skips ht .nil
  | some e => exact .sends ht .nil

theorem forwards_cons (watched : ObjectKey) (i : Item) (is : List Item) :
    Watcher.forwards watched (i :: is)
      = (i.toOption.bind (·.news? watched)).toList ++ Watcher.forwards watched is := by
  cases i with
  | error e => rfl
  | ok e => cases hn : e.news? watched <;> simp [Watcher.forwards, Except.toOption, hn]

/-- Which events are owed can be computed, and there is one answer. -/
theorem relays_iff : Relays watched is es ↔ es = Watcher.forwards watched is := by
  constructor
  · intro hr
    induction hr with
    | nil => rfl
    | sends ht _ ih | skips ht _ ih =>
      rw [forwards_cons, ht.news, ← ih]
      rfl
  · rintro rfl
    induction is with
    | nil => exact .nil
    | cons i is ih =>
      rw [forwards_cons]
      exact (itemEvent_news watched i).relays.append ih

theorem Relays.dropInit (hr : Relays watched (is ++ [.ok .init]) es) : Relays watched is es := by
  rw [relays_iff] at hr ⊢
  rw [hr, Watcher.forwards, List.filterMap_append]
  exact List.append_nil _

end Relay

namespace Reaction

def sent? : Reaction → Option SyncEvent
  | .send e => some e
  | _ => none

end Reaction

theorem Pauses.length_le (n : Nat) : length n ≤ longest := by
  unfold length
  split
  · decide
  · exact Nat.min_le_left _ _

namespace Watcher

variable {w v : Watcher} {r : Reaction} {i : Item} {now : Nat}

theorem react_keeps (hr : w.react now i = (r, v)) : v.watched = w.watched ∧ v.watch = w.watch := by
  cases i <;> cases hr <;> exact ⟨rfl, rfl⟩

theorem react_itemEvent (hr : w.react now i = (r, v)) : ItemEvent w.watched i r.sent? := by
  have hn : r.sent? = i.toOption.bind (·.news? w.watched) := by
    cases i with
    | error e =>
      cases hr
      rfl
    | ok e =>
      cases hr
      cases hn : e.news? w.watched <;> simp [Reaction.sent?, Except.toOption, hn]
  rw [hn]
  exact itemEvent_news w.watched i

theorem react_pauses {l : LogLine} {n : Nat} (hr : w.react now i = (.pause l n, v)) :
    n ≤ Pauses.longest := by
  cases i with
  | ok e => cases hn : e.news? w.watched <;> simp [react, hn] at hr
  | error e =>
    cases hr
    exact Pauses.length_le _

end Watcher

namespace Watch

def after : Watch → List Signal → Watch
  | w, [] => w
  | w, s :: ss => (w.ask.2.1.hear s).2.after ss

variable (w : Watch) (s : Signal) (ss : List Signal)

theorem ask_items : w.ask.1 = [] ∨ w.ask.1 = [.ok .init] := by
  cases w with
  | fresh => exact .inr rfl
  | listing | listed | following => exact .inl rfl

theorem ask_ask : w.ask.2.1.ask.1 = [] ∧ w.ask.2.1.ask.2.1 = w.ask.2.1 := by
  cases w <;> exact ⟨rfl, rfl⟩

theorem after_concat : w.after (ss ++ [s]) = ((w.after ss).ask.2.1.hear s).2 := by
  induction ss generalizing w with
  | nil => rfl
  | cons r ss ih => exact ih _

theorem items_concat : w.items (ss ++ [s])
    = w.items ss ++ (w.after ss).ask.1 ++ ((w.after ss).ask.2.1.hear s).1 := by
  induction ss generalizing w with
  | nil => exact List.append_nil _
  | cons r ss ih =>
    have hi := ih (w.ask.2.1.hear r).2
    simp only [List.cons_append, items, after]
    rw [hi]
    simp only [List.append_assoc]

end Watch

end TokenCourier
