/-
# Bounded queues and the loops that rotate them

A queue of capacity `cap` carries the bound on its length, so a full queue is
the only one that refuses an element.  `push` is an enqueue whose result is
ignored: on a full queue the element is lost.

Programs look at the elements of such a queue by rotating it: dequeue the
oldest element, look at it, and enqueue it again.  Three such loops are here,
each with the number of rounds as its first argument:

* `sweep` hands every element to a function that changes or drops it;
* `takeFirst` stops at the first match and takes it out;
* `hasMatch` stops at the first match and leaves it in.

Nothing is lost when nobody else uses the queue meanwhile, because the
dequeue makes the room the enqueue needs.  A whole `sweep` keeps the order
(`sweep_size`), the two searches leave a rotation (`takeFirst_of_split`,
`hasMatch_size`).
-/

import Mathlib.Data.List.Basic
import Mathlib.Data.List.Perm.Basic

namespace Basis

/-- A first-in first-out queue of at most `cap` elements, oldest first. -/
structure Queue (α : Type*) (cap : ℕ) where
  items : List α
  le : items.length ≤ cap

namespace Queue

variable {α σ : Type*} {cap : ℕ}

/-- Queues of one capacity are equal if their elements are. -/
theorem ext_items {q r : Queue α cap} (h : q.items = r.items) : q = r := by
  cases q; cases r; cases h; rfl

/-- The empty queue. -/
def empty : Queue α cap := ⟨[], Nat.zero_le _⟩

/-- The number of elements. -/
def size (q : Queue α cap) : ℕ := q.items.length

/-- Append an element; `none` when the queue is full. -/
def enqueue (q : Queue α cap) (x : α) : Option (Queue α cap) :=
  if h : q.items.length < cap then
    some ⟨q.items ++ [x], by rw [List.length_append]; exact h⟩
  else none

/-- Take the oldest element; `none` when the queue is empty. -/
def dequeue : Queue α cap → Option (α × Queue α cap)
  | ⟨[], _⟩ => none
  | ⟨x :: xs, h⟩ => some (x, ⟨xs, Nat.le_of_succ_le h⟩)

/-- Append an element and ignore a refusal. -/
def push (q : Queue α cap) (x : α) : Queue α cap := (q.enqueue x).getD q

/-- An enqueue succeeds when there is room, and puts the element at the end. -/
theorem enqueue_eq_some {q r : Queue α cap} {x : α} :
    q.enqueue x = some r ↔ q.items.length < cap ∧ r.items = q.items ++ [x] := by
  unfold enqueue
  split
  · rename_i h
    rw [Option.some.injEq]
    exact ⟨fun e => ⟨h, e ▸ rfl⟩, fun e => ext_items e.2.symm⟩
  · rename_i h
    exact ⟨fun e => absurd e (by simp), fun e => absurd e.1 h⟩

/-- An enqueue fails exactly if the queue is full. -/
theorem enqueue_eq_none {q : Queue α cap} {x : α} : q.enqueue x = none ↔ cap ≤ q.items.length := by
  unfold enqueue
  split <;> simp <;> omega

/-- With room a push is an enqueue. -/
theorem push_items_of_lt {q : Queue α cap} (h : q.items.length < cap) (x : α) :
    (q.push x).items = q.items ++ [x] := by
  simp only [push, enqueue, h, dite_true, Option.getD_some]

/-- The oldest element comes out first, and leaves room for one. -/
theorem dequeue_of_items {q : Queue α cap} {x : α} (xs : List α) (h : q.items = x :: xs) :
    ∃ q' : Queue α cap, q.dequeue = some (x, q') ∧ q'.items = xs ∧ q'.items.length < cap := by
  obtain ⟨items, hle⟩ := q
  obtain rfl : items = x :: xs := h
  exact ⟨⟨xs, Nat.le_of_succ_le hle⟩, rfl, rfl, hle⟩

/-- A dequeue takes the first element. -/
theorem dequeue_eq_some {q q' : Queue α cap} {x : α} :
    q.dequeue = some (x, q') ↔ q.items = x :: q'.items := by
  obtain ⟨items, hle⟩ := q
  obtain ⟨items', hle'⟩ := q'
  cases items with
  | nil => simp [dequeue]
  | cons y ys => simp [dequeue]

/-- A dequeue fails exactly if the queue is empty. -/
theorem dequeue_eq_none {q : Queue α cap} : q.dequeue = none ↔ q.items = [] := by
  obtain ⟨items, hle⟩ := q
  cases items <;> simp [dequeue]

/-! ### Looking at every element -/

/-- Rotate the queue `n` times, handing each element to `f`, which may change
it (`some`) or drop it (`none`). -/
def sweep (f : σ → α → σ × Option α) : ℕ → σ → Queue α cap → σ × Queue α cap
  | 0, s, q => (s, q)
  | n + 1, s, q =>
    match q.dequeue with
    | none => (s, q)
    | some (x, q') =>
      match (f s x).2 with
      | none => sweep f n (f s x).1 q'
      | some y => sweep f n (f s x).1 (q'.push y)

/-- What a sweep does to the list of elements. -/
def sweepList (f : σ → α → σ × Option α) : σ → List α → σ × List α
  | s, [] => (s, [])
  | s, x :: xs =>
    ((sweepList f (f s x).1 xs).1, (f s x).2.toList ++ (sweepList f (f s x).1 xs).2)

/-- **A sweep of the first elements** works on them in order and puts what is kept behind the
rest. -/
theorem sweep_append (f : σ → α → σ × Option α) (xs ys : List α) (s : σ) (q : Queue α cap)
    (hq : q.items = xs ++ ys) :
    (sweep f xs.length s q).1 = (sweepList f s xs).1 ∧
      (sweep f xs.length s q).2.items = ys ++ (sweepList f s xs).2 := by
  induction xs generalizing s ys q with
  | nil => exact ⟨rfl, by simpa [sweep, sweepList] using hq⟩
  | cons x xs ih =>
    obtain ⟨q', hd, hq', hlt⟩ := dequeue_of_items (xs ++ ys) hq
    cases hf : (f s x).2 with
    | none =>
      have := ih ys (f s x).1 q' hq'
      simpa only [List.length_cons, sweep, hd, hf, sweepList, Option.toList_none,
        List.nil_append] using this
    | some y =>
      have hp : (q'.push y).items = xs ++ (ys ++ [y]) := by
        rw [push_items_of_lt hlt, hq', List.append_assoc]
      have := ih (ys ++ [y]) (f s x).1 (q'.push y) hp
      simpa only [List.length_cons, sweep, hd, hf, sweepList, Option.toList_some,
        List.append_assoc] using this

/-- **A whole sweep loses nothing and keeps the order.** -/
theorem sweep_size (f : σ → α → σ × Option α) (s : σ) (q : Queue α cap) :
    (sweep f q.size s q).1 = (sweepList f s q.items).1 ∧
      (sweep f q.size s q).2.items = (sweepList f s q.items).2 :=
  sweep_append f q.items [] s q (List.append_nil _).symm

/-- Every element a sweep leaves is one that `f` kept. -/
theorem mem_sweepList {f : σ → α → σ × Option α} {P : α → Prop} {xs : List α}
    (hf : ∀ s, ∀ x ∈ xs, ∀ y, (f s x).2 = some y → P y) {s : σ} :
    ∀ y ∈ (sweepList f s xs).2, P y := by
  induction xs generalizing s with
  | nil => simp [sweepList]
  | cons x xs ih =>
    intro y hy
    rw [sweepList, List.mem_append, Option.mem_toList] at hy
    rcases hy with hy | hy
    · exact hf s x List.mem_cons_self y hy
    · exact ih (fun s z hz => hf s z (List.mem_cons_of_mem _ hz)) y hy

/-- What every call of `f` keeps of the state, a sweep keeps. -/
theorem sweepList_state {f : σ → α → σ × Option α} {I : σ → Prop} {xs : List α}
    (hf : ∀ s, ∀ x ∈ xs, I s → I (f s x).1) {s : σ} (hs : I s) : I (sweepList f s xs).1 := by
  induction xs generalizing s with
  | nil => exact hs
  | cons x xs ih =>
    exact ih (fun s z hz => hf s z (List.mem_cons_of_mem _ hz)) (hf s x List.mem_cons_self hs)

/-- What every call of `f` keeps of the state, and what it makes of the elements meanwhile. -/
theorem sweepList_invariant {f : σ → α → σ × Option α} {I : σ → Prop} {P : α → Prop}
    {xs : List α} (hf : ∀ s, ∀ x ∈ xs, I s → I (f s x).1 ∧ ∀ y, (f s x).2 = some y → P y) {s : σ}
    (hs : I s) : I (sweepList f s xs).1 ∧ ∀ y ∈ (sweepList f s xs).2, P y := by
  induction xs generalizing s with
  | nil => exact ⟨hs, fun y hy => absurd hy List.not_mem_nil⟩
  | cons x xs ih =>
    obtain ⟨hx, hkept⟩ := hf s x List.mem_cons_self hs
    obtain ⟨hstate, hleft⟩ := ih (fun s z hz => hf s z (List.mem_cons_of_mem _ hz)) hx
    refine ⟨hstate, fun y hy => ?_⟩
    rw [sweepList, List.mem_append, Option.mem_toList] at hy
    exact hy.elim (hkept y) (hleft y)

/-- An element that `f` keeps in every state is in what a sweep leaves. -/
theorem exists_mem_sweepList {f : σ → α → σ × Option α} {I : σ → Prop} {R : α → α → Prop}
    {xs : List α} {x : α} (hx : x ∈ xs) (hI : ∀ s, ∀ y ∈ xs, I s → I (f s y).1)
    (hkeep : ∀ s, I s → ∃ y, (f s x).2 = some y ∧ R x y) {s : σ} (hs : I s) :
    ∃ y ∈ (sweepList f s xs).2, R x y := by
  induction xs generalizing s with
  | nil => exact absurd hx List.not_mem_nil
  | cons z xs ih =>
    simp only [sweepList, List.mem_append, Option.mem_toList]
    rcases List.mem_cons.1 hx with rfl | hx
    · obtain ⟨y, hy, hr⟩ := hkeep s hs
      exact ⟨y, .inl hy, hr⟩
    · obtain ⟨y, hy, hr⟩ := ih hx (fun s y hy => hI s y (List.mem_cons_of_mem _ hy))
        (hI s z List.mem_cons_self hs)
      exact ⟨y, .inr hy, hr⟩

/-- The elements, each with the state it is handed over in. -/
def sweepStates (f : σ → α → σ × Option α) : σ → List α → List (σ × α)
  | _, [] => []
  | s, x :: xs => (s, x) :: sweepStates f (f s x).1 xs

/-- The elements that a sweep meets, without its states. -/
theorem map_snd_sweepStates (f : σ → α → σ × Option α) (s : σ) (xs : List α) :
    (sweepStates f s xs).map Prod.snd = xs := by
  induction xs generalizing s with
  | nil => rfl
  | cons x xs ih => rw [sweepStates, List.map_cons, ih]

/-- What every call of `f` keeps of the state holds whenever an element is handed over. -/
theorem sweepStates_invariant {f : σ → α → σ × Option α} {I : σ → Prop} {xs : List α}
    (hI : ∀ s, I s → ∀ x ∈ xs, I (f s x).1) {s : σ} (hs : I s) :
    ∀ r ∈ sweepStates f s xs, I r.1 ∧ r.2 ∈ xs := by
  induction xs generalizing s with
  | nil => exact fun r hr => absurd hr List.not_mem_nil
  | cons x xs ih =>
    intro r hr
    rcases List.mem_cons.1 hr with rfl | hr
    · exact ⟨hs, List.mem_cons_self⟩
    · obtain ⟨hr₁, hr₂⟩ := ih (fun s hs y hy => hI s hs y (List.mem_cons_of_mem _ hy))
        (hI s hs x List.mem_cons_self) r hr
      exact ⟨hr₁, List.mem_cons_of_mem _ hr₂⟩

/-- **A sweep that drops what meets `p`** leaves the other elements, each as `f` kept it in the
state it was handed over in. -/
theorem sweepStates_filter {f : σ → α → σ × Option α} {p : α → Bool} {R : σ × α → α → Prop}
    {s : σ} {xs : List α}
    (hdrop : ∀ r ∈ sweepStates f s xs, p r.2 = true → (f r.1 r.2).2 = none)
    (hkeep : ∀ r ∈ sweepStates f s xs, p r.2 = false → ∃ y, (f r.1 r.2).2 = some y ∧ R r y) :
    List.Forall₂ R ((sweepStates f s xs).filter fun r => !p r.2) (sweepList f s xs).2 := by
  induction xs generalizing s with
  | nil => exact .nil
  | cons x xs ih =>
    have hrest := ih (fun r hr => hdrop r (List.mem_cons_of_mem _ hr))
      fun r hr => hkeep r (List.mem_cons_of_mem _ hr)
    rw [sweepList, sweepStates]
    cases hp : p x with
    | true =>
      rw [hdrop (s, x) List.mem_cons_self hp,
        List.filter_cons_of_neg (by rw [hp]; exact Bool.false_ne_true)]
      exact hrest
    | false =>
      obtain ⟨y, hy, hR⟩ := hkeep (s, x) List.mem_cons_self hp
      rw [hy, List.filter_cons_of_pos (by rw [hp]; rfl)]
      exact .cons hR hrest

/-- The same for what holds whatever the states are, as long as they keep `I`. -/
theorem sweepList_filter {f : σ → α → σ × Option α} {I : σ → Prop} {p : α → Bool}
    {R : α → α → Prop} {xs : List α} (hI : ∀ s, I s → ∀ x ∈ xs, I (f s x).1)
    (hdrop : ∀ s, I s → ∀ x ∈ xs, p x = true → (f s x).2 = none)
    (hkeep : ∀ s, I s → ∀ x ∈ xs, p x = false → ∃ y, (f s x).2 = some y ∧ R x y) {s : σ}
    (hs : I s) : List.Forall₂ R (xs.filter fun x => !p x) (sweepList f s xs).2 := by
  have hinv := sweepStates_invariant hI hs
  have hpairs := @sweepStates_filter _ _ f p (fun r y => R r.2 y) s xs
    (fun r hr => hdrop r.1 (hinv r hr).1 r.2 (hinv r hr).2)
    fun r hr => hkeep r.1 (hinv r hr).1 r.2 (hinv r hr).2
  have hxs : xs.filter (fun x => !p x) =
      ((sweepStates f s xs).filter fun r => !p r.2).map Prod.snd := by
    conv_lhs => rw [← map_snd_sweepStates f s xs]
    exact List.filter_map ..
  rw [hxs]
  exact List.forall₂_map_left_iff.2 hpairs

/-! ### Searching for one element -/

/-- Rotate the queue at most `n` times up to the first match and take it out. -/
def takeFirst (p : α → Bool) : ℕ → Queue α cap → Option α × Queue α cap
  | 0, q => (none, q)
  | n + 1, q =>
    match q.dequeue with
    | none => (none, q)
    | some (x, q') => if p x then (some x, q') else takeFirst p n (q'.push x)

/-- Rotate the queue at most `n` times up to the first match, leaving it in. -/
def hasMatch (p : α → Bool) : ℕ → Queue α cap → Bool × Queue α cap
  | 0, q => (false, q)
  | n + 1, q =>
    match q.dequeue with
    | none => (false, q)
    | some (x, q') => if p x then (true, q'.push x) else hasMatch p n (q'.push x)

/-- The search for an element passes those in front that do not match and puts them at the end. -/
theorem takeFirst_append (p : α → Bool) (pre ys : List α) (n : ℕ)
    (hpre : ∀ y ∈ pre, p y = false) (q : Queue α cap) (hq : q.items = pre ++ ys) :
    ∃ r : Queue α cap, r.items = ys ++ pre ∧ takeFirst p (pre.length + n) q = takeFirst p n r := by
  induction pre generalizing ys q with
  | nil => exact ⟨q, by simpa using hq, by simp⟩
  | cons x pre ih =>
    obtain ⟨q', hd, hq', hlt⟩ := dequeue_of_items (pre ++ ys) hq
    have hp : (q'.push x).items = pre ++ (ys ++ [x]) := by
      rw [push_items_of_lt hlt, hq', List.append_assoc]
    obtain ⟨r, hr, e⟩ := ih (ys ++ [x]) (fun y hy => hpre y (List.mem_cons_of_mem _ hy)) _ hp
    refine ⟨r, by rw [hr, List.append_assoc]; rfl, ?_⟩
    have hx : p x = false := hpre x List.mem_cons_self
    rw [List.length_cons, Nat.add_right_comm, ← e]
    simp only [takeFirst, hd, hx, Bool.false_eq_true, if_false]

/-- **The first match is taken out and the elements before it go to the back.** -/
theorem takeFirst_of_split {p : α → Bool} {q : Queue α cap} {pre post : List α} {x : α}
    (hq : q.items = pre ++ x :: post) (hpre : ∀ y ∈ pre, p y = false) (hx : p x = true) :
    (takeFirst p q.size q).1 = some x ∧ (takeFirst p q.size q).2.items = post ++ pre := by
  obtain ⟨r, hr, e⟩ := takeFirst_append p pre (x :: post) (post.length + 1) hpre q hq
  obtain ⟨r', hd, hr', -⟩ := dequeue_of_items (post ++ pre) hr
  rw [size, hq, List.length_append, List.length_cons, e]
  simpa only [takeFirst, hd, hx, if_true, true_and] using hr'

/-- The search takes out what `find?` finds. -/
theorem takeFirst_of_find {p : α → Bool} {q : Queue α cap} {x : α}
    (h : q.items.find? p = some x) :
    ∃ pre post, q.items = pre ++ x :: post ∧ (∀ y ∈ pre, p y = false) ∧ p x = true ∧
      (takeFirst p q.size q).1 = some x ∧ (takeFirst p q.size q).2.items = post ++ pre := by
  obtain ⟨hx, pre, post, hq, hpre⟩ := List.find?_eq_some_iff_append.1 h
  have hpre : ∀ y ∈ pre, p y = false := fun y hy => by simpa using hpre y hy
  exact ⟨pre, post, hq, hpre, hx, takeFirst_of_split hq hpre hx⟩

/-- Without a match the queue is back where it was. -/
theorem takeFirst_of_forall {p : α → Bool} {q : Queue α cap} (h : q.items.find? p = none) :
    takeFirst p q.size q = (none, q) := by
  have h : ∀ y ∈ q.items, p y = false := fun y hy => by
    simpa using List.find?_eq_none.1 h y hy
  obtain ⟨r, hr, e⟩ := takeFirst_append p q.items [] 0 h q (List.append_nil _).symm
  rw [size, ← Nat.add_zero q.items.length, e, takeFirst, ext_items hr]

/-- **What the search takes out is a match**, and the others stay. -/
theorem takeFirst_eq_some {p : α → Bool} {q r : Queue α cap} {x : α}
    (h : takeFirst p q.size q = (some x, r)) : p x = true ∧ (x :: r.items).Perm q.items := by
  cases hf : q.items.find? p with
  | none =>
    rw [takeFirst_of_forall hf] at h
    exact absurd (congrArg Prod.fst h) (Option.some_ne_none x).symm
  | some y =>
    obtain ⟨pre, post, hq, -, hy, h₁, h₂⟩ := takeFirst_of_find hf
    rw [h] at h₁ h₂
    obtain rfl := Option.some.inj h₁
    refine ⟨hy, ?_⟩
    rw [hq, show r.items = post ++ pre from h₂]
    exact (List.perm_append_comm.cons x).trans List.perm_middle.symm

/-- A search that takes out nothing found no match and leaves the queue. -/
theorem takeFirst_eq_none {p : α → Bool} {q r : Queue α cap}
    (h : takeFirst p q.size q = (none, r)) : r = q ∧ ∀ y ∈ q.items, p y = false := by
  cases hf : q.items.find? p with
  | none =>
    rw [takeFirst_of_forall hf] at h
    exact ⟨(congrArg Prod.snd h).symm, fun y hy => by simpa using List.find?_eq_none.1 hf y hy⟩
  | some y =>
    obtain ⟨-, -, -, -, -, h₁, -⟩ := takeFirst_of_find hf
    rw [h] at h₁
    exact absurd h₁.symm (Option.some_ne_none y)

/-- **The search leaves a rotation, and finds a match exactly if there is one.** -/
theorem hasMatch_append (p : α → Bool) (pre ys : List α) (q : Queue α cap)
    (hq : q.items = ys ++ pre) :
    (hasMatch p ys.length q).1 = ys.any p ∧
      (hasMatch p ys.length q).2.items.Perm (ys ++ pre) := by
  induction ys generalizing pre q with
  | nil => exact ⟨rfl, by rw [hasMatch.eq_def]; exact hq ▸ List.Perm.refl _⟩
  | cons x ys ih =>
    obtain ⟨q', hd, hq', hlt⟩ := dequeue_of_items (ys ++ pre) hq
    have hp : (q'.push x).items = ys ++ (pre ++ [x]) := by
      rw [push_items_of_lt hlt, hq', List.append_assoc]
    have hperm : (ys ++ (pre ++ [x])).Perm (x :: ys ++ pre) := by
      rw [← List.append_assoc]
      exact List.perm_append_singleton _ _
    cases hx : p x with
    | true =>
      simp only [List.length_cons, hasMatch, hd, hx, if_true, List.any_cons, Bool.true_or,
        true_and, hp]
      exact hperm
    | false =>
      obtain ⟨h₁, h₂⟩ := ih (pre ++ [x]) _ hp
      simp only [List.length_cons, hasMatch, hd, hx, Bool.false_eq_true, if_false, List.any_cons,
        Bool.false_or]
      exact ⟨h₁, h₂.trans hperm⟩

/-- A search through the whole queue finds a match if there is one, and loses nothing. -/
theorem hasMatch_size (p : α → Bool) (q : Queue α cap) :
    (hasMatch p q.size q).1 = q.items.any p ∧ (hasMatch p q.size q).2.items.Perm q.items := by
  simpa only [List.append_nil, size] using
    hasMatch_append p [] q.items q (List.append_nil _).symm

end Queue
end Basis
