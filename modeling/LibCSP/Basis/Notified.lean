/-
# Queues with a queue of notifications

Items wait in `n` bounded queues, and one more queue holds a notification for each of
them, so that a reader can wait in one place.  A writer enqueues its item first and posts
a notification after it; the reader takes a notification first and then looks through
the queues in order.  Any number of writers and one reader are at work, and their single
queue operations interleave.

There are never more notifications, posts to come and scans than items
(`Notified.Covered`), whether or not a post is refused, so a scan never comes to its end
without an item.  The two numbers are equal (`Notified.Balanced`) as long as no post is
refused, and no post is refused if the notifications have as much room as all items
together (`Notified.Covered.room`).
-/

import Mathlib.Algebra.Order.BigOperators.Group.Finset
import Mathlib.Data.List.FinRange
import LibCSP.Basis.Ledger
import LibCSP.Basis.Queue

namespace Basis

/-- **A loop that looks at one place after another** and stops at the first match does what
`find?` says: `R j` is that the loop at `j` reaches its goal. -/
theorem scan_induction {n : ℕ} {p : Fin n → Bool} {R : ℕ → Prop}
    (hnone : (List.finRange n).find? p = none → R n)
    (hsome : ∀ k, (List.finRange n).find? p = some k → R k.val)
    (hskip : ∀ k : Fin n, p k = false → R (k.val + 1) → R k.val) : R 0 := by
  have hfrom : ∀ m j, j + m = n → (∀ i : Fin n, i.val < j → p i = false) → R j := by
    intro m
    induction m with
    | zero =>
      intro j hj hlt
      obtain rfl : j = n := hj
      refine hnone (List.find?_eq_none.2 fun i _ => ?_)
      rw [hlt i i.isLt]
      exact Bool.false_ne_true
    | succ m ih =>
      intro j hj hlt
      have hj' : j < n := by omega
      cases hp : p ⟨j, hj'⟩ with
      | true =>
        refine hsome ⟨j, hj'⟩ (List.find?_eq_some_iff_getElem.2 ⟨hp, j, by simpa, by simp, ?_⟩)
        intro i hi
        rw [List.getElem_finRange]
        simpa using hlt _ hi
      | false =>
        refine hskip ⟨j, hj'⟩ hp (ih (j + 1) (by omega) fun i hi => ?_)
        rcases Nat.lt_succ_iff_lt_or_eq.1 hi with h | h
        · exact hlt i h
        · obtain rfl : i = ⟨j, hj'⟩ := Fin.ext h
          exact hp
  exact hfrom n 0 (Nat.zero_add n) fun i hi => absurd hi (Nat.not_lt_zero _)

/-- `n` queues of items and the notifications. -/
structure Notified (α : Type*) (n cap evCap : ℕ) where
  queue : Fin n → Queue α cap
  event : Queue Unit evCap
  /-- Writers that have enqueued an item and not yet posted the notification. -/
  posting : ℕ
  /-- The queue a scan looks at next. -/
  scan : Option ℕ

namespace Notified

variable {α : Type*} {n cap evCap : ℕ} {s t : Notified α n cap evCap}

/-- The number of items. -/
def total (s : Notified α n cap evCap) : ℕ := ∑ k, (s.queue k).size

/-- The number of notifications, those to be posted and the one a scan has taken. -/
def announced (s : Notified α n cap evCap) : ℕ := s.event.size + s.posting + s.scan.toList.length

/-- One queue operation that succeeds, or that finds a queue of items empty. -/
inductive Step (s : Notified α n cap evCap) : Notified α n cap evCap → Prop
  | put {k x q} : (s.queue k).enqueue x = some q →
      Step s { s with queue := Function.update s.queue k q, posting := s.posting + 1 }
  | post {ev} : 0 < s.posting → s.event.enqueue () = some ev →
      Step s { s with event := ev, posting := s.posting - 1 }
  | wait {ev} : s.scan = none → s.event.dequeue = some ((), ev) →
      Step s { s with event := ev, scan := some 0 }
  | skip {k} : s.scan = some k.val → (s.queue k).dequeue = none →
      Step s { s with scan := some (k.val + 1) }
  | take {k x q} : s.scan = some k.val → (s.queue k).dequeue = some (x, q) →
      Step s { s with queue := Function.update s.queue k q, scan := none }

/-- A post is refused and nobody takes notice. -/
inductive Lost (s : Notified α n cap evCap) : Notified α n cap evCap → Prop
  | mk : 0 < s.posting → s.event.enqueue () = none →
      Lost s { s with posting := s.posting - 1 }

/-- Every notification has an item, and a scan has one before it. -/
structure Covered (s : Notified α n cap evCap) : Prop where
  le : s.announced ≤ s.total
  ahead : ∀ j, s.scan = some j → ∃ k : Fin n, j ≤ k ∧ (s.queue k).items ≠ []

/-- Every item is announced, and nothing else. -/
def Balanced (s : Notified α n cap evCap) : Prop := s.announced = s.total

/-- An element that is put in counts. -/
theorem size_of_enqueue {q r : Queue α cap} {x : α} (h : q.enqueue x = some r) :
    r.size = q.size + 1 := by
  unfold Queue.size
  rw [(Queue.enqueue_eq_some.1 h).2, List.length_append, List.length_singleton]

/-- An element that is taken out does not count any more. -/
theorem size_of_dequeue {q r : Queue α cap} {x : α} (h : q.dequeue = some (x, r)) :
    q.size = r.size + 1 :=
  congrArg List.length (Queue.dequeue_eq_some.1 h)

/-- Only an empty queue has nothing to take out. -/
theorem size_eq_zero {q : Queue α cap} : q.dequeue = none ↔ q.size = 0 :=
  Queue.dequeue_eq_none.trans List.length_eq_zero_iff.symm

/-- One queue changes, and the total by the difference. -/
theorem total_update {k : Fin n} {q : Queue α cap} :
    ∑ j, (Function.update s.queue k q j).size + (s.queue k).size = s.total + q.size :=
  sum_update_add Queue.size s.queue k q

/-- What one operation does to the two numbers: a `put` raises both, a `take` lowers both. -/
theorem Step.account (h : Step s t) :
    (t.announced = s.announced ∧ t.total = s.total) ∨
      (t.announced = s.announced + 1 ∧ t.total = s.total + 1) ∨
        (s.announced = t.announced + 1 ∧ s.total = t.total + 1) := by
  cases h with
  | @put k x q hq =>
    have hsum := total_update (s := s) (k := k) (q := q)
    have hsize := size_of_enqueue hq
    refine .inr (.inl ⟨?_, ?_⟩)
    · show s.event.size + (s.posting + 1) + s.scan.toList.length =
        s.event.size + s.posting + s.scan.toList.length + 1
      omega
    · show ∑ j, (Function.update s.queue k q j).size = s.total + 1
      omega
  | @post ev hp hev =>
    have hsize := size_of_enqueue hev
    refine .inl ⟨?_, rfl⟩
    show ev.size + (s.posting - 1) + s.scan.toList.length =
      s.event.size + s.posting + s.scan.toList.length
    omega
  | @wait ev hs hev =>
    have hsize := size_of_dequeue hev
    refine .inl ⟨?_, rfl⟩
    show ev.size + s.posting + 1 = s.event.size + s.posting + s.scan.toList.length
    rw [hs]
    exact (by omega : ev.size + s.posting + 1 = s.event.size + s.posting + 0)
  | skip hs _ =>
    refine .inl ⟨?_, rfl⟩
    show s.event.size + s.posting + 1 = s.event.size + s.posting + s.scan.toList.length
    rw [hs]
    rfl
  | @take k x q hs hq =>
    have hsum := total_update (s := s) (k := k) (q := q)
    have hsize := size_of_dequeue hq
    refine .inr (.inr ⟨?_, ?_⟩)
    · show s.event.size + s.posting + s.scan.toList.length = s.event.size + s.posting + 0 + 1
      rw [hs]
      rfl
    · show s.total = ∑ j, (Function.update s.queue k q j).size + 1
      omega

/-- **Balance is kept** by every operation that succeeds. -/
theorem Step.balanced (h : Step s t) (hb : s.Balanced) : t.Balanced := by
  unfold Balanced at hb ⊢
  obtain ⟨h₁, h₂⟩ | ⟨h₁, h₂⟩ | ⟨h₁, h₂⟩ := h.account <;> omega

/-- If the total is not zero, some queue holds an element. -/
theorem exists_item (h : 0 < s.total) : ∃ k, (s.queue k).items ≠ [] := by
  obtain ⟨k, -, hk⟩ := Finset.exists_ne_zero_of_sum_ne_zero (Nat.pos_iff_ne_zero.1 h)
  exact ⟨k, fun hn => hk (by rw [Queue.size, hn]; rfl)⟩

/-- **Cover is kept** by every operation: writers only add items, and what a scan passes is
empty. -/
theorem Step.covered (h : Step s t) (hc : s.Covered) : t.Covered := by
  have hle : t.announced ≤ t.total := by
    have := hc.le
    obtain ⟨h₁, h₂⟩ | ⟨h₁, h₂⟩ | ⟨h₁, h₂⟩ := h.account <;> omega
  refine ⟨hle, ?_⟩
  cases h with
  | @put k x q hq =>
    intro j hj
    obtain ⟨i, hi, hne⟩ := hc.ahead j hj
    refine ⟨i, hi, ?_⟩
    show (Function.update s.queue k q i).items ≠ []
    by_cases hik : i = k
    · subst hik
      rw [Function.update_self, (Queue.enqueue_eq_some.1 hq).2]
      exact List.append_ne_nil_of_right_ne_nil _ (List.cons_ne_nil _ _)
    · rw [Function.update_of_ne hik]
      exact hne
  | post hp hev => exact hc.ahead
  | @wait ev hs hev =>
    intro j hj
    obtain rfl : 0 = j := Option.some.inj hj
    have hsize := size_of_dequeue hev
    have : s.announced ≤ s.total := hc.le
    have hpos : 0 < s.announced := by unfold announced; omega
    obtain ⟨k, hk⟩ := exists_item (s := s) (by omega)
    exact ⟨k, Nat.zero_le _, hk⟩
  | @skip k hs hk =>
    intro j hj
    obtain rfl : k.val + 1 = j := Option.some.inj hj
    obtain ⟨i, hi, hne⟩ := hc.ahead k hs
    have hik : i ≠ k := fun e => hne (e ▸ Queue.dequeue_eq_none.1 hk)
    have : i.val ≠ k.val := fun e => hik (Fin.ext e)
    exact ⟨i, by omega, hne⟩
  | take hs hq =>
    intro j hj
    exact absurd hj.symm (Option.some_ne_none j)

/-- A queue that loses elements is announced as before. -/
theorem Lost.covered (h : Lost s t) (hc : s.Covered) : t.Covered := by
  cases h with
  | mk hp hev =>
    refine ⟨?_, hc.ahead⟩
    have := hc.le
    show s.event.size + (s.posting - 1) + s.scan.toList.length ≤ s.total
    unfold announced at this
    omega

/-- **A scan does not run out of queues.** -/
theorem Covered.scan_lt (h : s.Covered) {j : ℕ} (hj : s.scan = some j) : j < n := by
  obtain ⟨k, hk, -⟩ := h.ahead j hj
  exact hk.trans_lt k.isLt

/-- What all queues hold together. -/
theorem total_le (s : Notified α n cap evCap) : s.total ≤ n * cap := by
  have h : s.total ≤ ∑ _ : Fin n, cap := Finset.sum_le_sum fun k _ => (s.queue k).le
  simpa using h

/-- **With room for as many notifications as items no post is refused.** -/
theorem Covered.room (h : s.Covered) (hcap : n * cap ≤ evCap) (hp : 0 < s.posting) :
    s.event.enqueue () ≠ none := by
  have := h.le
  have := s.total_le
  unfold announced at *
  rw [Ne, Queue.enqueue_eq_none, ← Queue.size]
  omega

/-- **Nobody at work:** a balanced state has one notification for each item. -/
theorem Balanced.idle (h : s.Balanced) (hp : s.posting = 0) (hs : s.scan = none) :
    s.event.size = s.total := by
  unfold Balanced announced at h
  rw [hp, hs] at h
  exact h

/-- **No notification and no scan:** the items are those whose notification is to come. -/
theorem Balanced.waiting (h : s.Balanced) (hev : s.event.dequeue = none) (hs : s.scan = none) :
    s.total = s.posting := by
  unfold Balanced announced at h
  rw [size_eq_zero.1 hev, hs] at h
  exact h.symm.trans (Nat.zero_add _)

end Notified
end Basis
