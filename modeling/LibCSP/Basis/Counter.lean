/-
# A counter that serves by rank

Customers come to a counter one by one.  The clerk looks up, and then serves one of them: the
first of his rank, and of those who were there when the clerk looked up nobody has a lower
rank.  Who comes in after that may be overlooked.

This is what a clerk can promise who looks into one queue for each rank, one after another,
while customers line up.  Everybody who came is served once or waits, and within a rank they
are served in the order in which they came (`Counter.lossless`).
-/

import Mathlib.Data.List.Perm.Basic
import LibCSP.Basis.Run

namespace Basis

variable {α : Type*}

/-- The first element of this rank, and the others. -/
def takeRank (rank : α → ℕ) (k : ℕ) : List α → Option (α × List α)
  | [] => none
  | x :: xs =>
    if rank x = k then some (x, xs) else (takeRank rank k xs).map fun r => (r.1, x :: r.2)

/-- The elements of this rank. -/
def ofRank (rank : α → ℕ) (k : ℕ) (l : List α) : List α := l.filter fun x => rank x = k

section Rank

variable {rank : α → ℕ} {k : ℕ} {l l' : List α} {x : α}

/-- Who has a rank in two queues behind each other. -/
theorem ofRank_append (l l' : List α) :
    ofRank rank k (l ++ l') = ofRank rank k l ++ ofRank rank k l' := List.filter_append l l'

/-- The first one counts if it has the rank. -/
theorem ofRank_cons (x : α) (l : List α) :
    ofRank rank k (x :: l) = (if rank x = k then [x] else []) ++ ofRank rank k l := by
  unfold ofRank
  by_cases h : rank x = k <;> simp [h]

/-- Nobody of the rank is there. -/
theorem ofRank_eq_nil : ofRank rank k l = [] ↔ ∀ y ∈ l, rank y ≠ k := by
  simp [ofRank, List.filter_eq_nil_iff]

/-- Nobody can be taken exactly if nobody of the rank waits. -/
theorem takeRank_eq_none : takeRank rank k l = none ↔ ofRank rank k l = [] := by
  rw [ofRank_eq_nil]
  induction l with
  | nil => simp [takeRank]
  | cons y l ih =>
    by_cases hy : rank y = k
    · simp [takeRank, hy]
    · simp [takeRank, hy, ih]

/-- **Where the first element of a rank is.** -/
theorem takeRank_eq_some (h : takeRank rank k l = some (x, l')) : rank x = k ∧
    ∃ before after, l = before ++ x :: after ∧ l' = before ++ after ∧
      ofRank rank k before = [] := by
  induction l generalizing l' with
  | nil => simp [takeRank] at h
  | cons y l ih =>
    by_cases hy : rank y = k
    · rw [takeRank, if_pos hy] at h
      cases h
      exact ⟨hy, [], l, rfl, rfl, rfl⟩
    · rw [takeRank, if_neg hy] at h
      obtain ⟨⟨z, l₁⟩, hr, heq⟩ := Option.map_eq_some_iff.1 h
      cases heq
      obtain ⟨hx, before, after, rfl, rfl, hnone⟩ := ih hr
      refine ⟨hx, y :: before, after, rfl, rfl, ?_⟩
      rw [ofRank_cons, if_neg hy, List.nil_append]
      exact hnone

/-- Who is taken and the others are those that waited. -/
theorem takeRank_perm (h : takeRank rank k l = some (x, l')) : l.Perm (x :: l') := by
  obtain ⟨-, before, after, rfl, rfl, -⟩ := takeRank_eq_some h
  exact List.perm_middle

/-- The rank loses its first element, and the others lose nothing. -/
theorem ofRank_takeRank (h : takeRank rank k l = some (x, l')) (j : ℕ) :
    ofRank rank j l = (if j = k then [x] else []) ++ ofRank rank j l' := by
  obtain ⟨hx, before, after, rfl, rfl, hnone⟩ := takeRank_eq_some h
  rw [ofRank_append, ofRank_append, ofRank_cons, hx]
  by_cases hj : j = k
  · subst hj
    simp [hnone]
  · simp [hj, Ne.symm hj]

end Rank

/-- Who came to the counter, who waits since the clerk looked up or longer, who came in after
that, and who was served. -/
structure Counter (α : Type*) where
  arrived : List α
  seen : List α
  unseen : List α
  served : List α

inductive CounterInput (α : Type*)
  | arrive (x : α)
  /-- The clerk looks up. -/
  | look
  /-- The clerk serves the first of this rank. -/
  | serve (k : ℕ)
  /-- The clerk serves nobody. -/
  | rest

/-- Who comes. -/
def CounterInput.arrival : CounterInput α → Option α
  | .arrive x => some x
  | .look | .serve _ | .rest => none

namespace Counter

def init : Counter α := ⟨[], [], [], []⟩

def waiting (c : Counter α) : List α := c.seen ++ c.unseen

def step (rank : α → ℕ) (c : Counter α) : CounterInput α → Option (Counter α)
  | .arrive x => some { c with arrived := c.arrived ++ [x], unseen := c.unseen ++ [x] }
  | .look => some { c with seen := c.seen ++ c.unseen, unseen := [] }
  | .serve k =>
    if ∀ x ∈ c.seen, k ≤ rank x then
      match takeRank rank k c.seen with
      | some (x, l) => some { c with seen := l, served := c.served ++ [x] }
      | none => (takeRank rank k c.unseen).map fun r =>
          { c with unseen := r.2, served := c.served ++ [r.1] }
    else none
  | .rest => if c.seen.isEmpty then some c else none

variable {rank : α → ℕ} {c c' : Counter α} {k : ℕ}

/-- **What it is to be served.** -/
theorem serve_eq_some (h : step rank c (.serve k) = some c') : (∀ x ∈ c.seen, k ≤ rank x) ∧
    ∃ x, c'.arrived = c.arrived ∧ c'.served = c.served ++ [x] ∧
      c.waiting.Perm (x :: c'.waiting) ∧ (∀ y ∈ c'.seen, y ∈ c.seen) ∧
      ∀ j, ofRank rank j c.waiting =
        (if j = k then [x] else []) ++ ofRank rank j c'.waiting := by
  simp only [step] at h
  split at h
  · rename_i hlow
    refine ⟨hlow, ?_⟩
    cases hseen : takeRank rank k c.seen with
    | some r =>
      obtain ⟨x, l⟩ := r
      rw [hseen] at h
      obtain rfl := Option.some.inj h
      refine ⟨x, rfl, rfl, (takeRank_perm hseen).append_right _, fun y hy => ?_, fun j => ?_⟩
      · exact (takeRank_perm hseen).mem_iff.2 (List.mem_cons_of_mem x hy)
      · rw [waiting, waiting, ofRank_append, ofRank_append, ofRank_takeRank hseen,
          List.append_assoc]
    | none =>
      rw [hseen] at h
      obtain ⟨⟨x, l⟩, hr, rfl⟩ := Option.map_eq_some_iff.1 h
      have hnone := takeRank_eq_none.1 hseen
      refine ⟨x, rfl, rfl, ?_, fun y hy => hy, fun j => ?_⟩
      · exact ((takeRank_perm hr).append_left c.seen).trans List.perm_middle
      · rw [waiting, waiting, ofRank_append, ofRank_append, ofRank_takeRank hr]
        by_cases hj : j = k
        · subst hj
          simp [hnone]
        · simp [hj]
  · cases h

/-- Who is first of a rank is served, if nobody of a lower rank was seen. -/
theorem exists_serve {x : α} {l : List α} (hlow : ∀ y ∈ c.seen, k ≤ rank y)
    (h : ofRank rank k c.waiting = x :: l) :
    ∃ c', step rank c (.serve k) = some c' ∧ c'.served = c.served ++ [x] ∧
      ofRank rank k c'.waiting = l := by
  have hsome : ∃ c', step rank c (.serve k) = some c' := by
    simp only [step, if_pos hlow]
    cases hseen : takeRank rank k c.seen with
    | some r => exact ⟨_, rfl⟩
    | none =>
      cases hunseen : takeRank rank k c.unseen with
      | some r => exact ⟨_, rfl⟩
      | none =>
        rw [waiting, ofRank_append, takeRank_eq_none.1 hseen, takeRank_eq_none.1 hunseen] at h
        exact absurd h (List.cons_ne_nil x l).symm
  obtain ⟨c', hc'⟩ := hsome
  obtain ⟨-, y, -, hserved, -, -, hrank⟩ := serve_eq_some hc'
  have hk := hrank k
  rw [if_pos rfl, h, List.singleton_append, List.cons.injEq] at hk
  obtain ⟨rfl, hl⟩ := hk
  exact ⟨c', hc', hserved, hl.symm⟩

/-! ### Runs -/

/-- Who came is served or waits, within a rank in the order of coming. -/
structure Lossless (rank : α → ℕ) (c : Counter α) : Prop where
  perm : (c.served ++ c.waiting).Perm c.arrived
  order : ∀ j, ofRank rank j c.served ++ ofRank rank j c.waiting = ofRank rank j c.arrived

/-- An arrival, a look and a serving lose nobody and keep the order within each rank. -/
theorem Lossless.step {i : CounterInput α} (h : c.Lossless rank)
    (hst : step rank c i = some c') : c'.Lossless rank := by
  cases i with
  | arrive x =>
    obtain rfl := Option.some.inj hst
    constructor
    · have := h.perm.append_right [x]
      simpa [waiting, List.append_assoc] using this
    · intro j
      simp [waiting, ofRank_append, ← h.order j, List.append_assoc]
  | look =>
    obtain rfl := Option.some.inj hst
    constructor
    · simpa [waiting] using h.perm
    · intro j
      simpa [waiting] using h.order j
  | serve k =>
    obtain ⟨-, x, harrived, hserved, hperm, -, hrank⟩ := serve_eq_some hst
    constructor
    · rw [hserved, harrived, List.append_assoc]
      exact (hperm.symm.append_left c.served).trans h.perm
    · intro j
      have hx : ofRank rank j [x] = if j = k then [x] else [] := by
        have hmem : x ∈ ofRank rank k c.waiting := by
          rw [hrank k, if_pos rfl]
          exact List.mem_append_left _ (List.mem_singleton_self x)
        have hk : rank x = k := of_decide_eq_true (List.mem_filter.1 hmem).2
        rw [ofRank_cons, hk]
        simp [ofRank, eq_comm]
      rw [hserved, harrived, ofRank_append, hx, List.append_assoc, ← hrank, h.order]
  | rest =>
    simp only [Counter.step] at hst
    split at hst
    · cases hst
      exact h
    · cases hst

/-- **Nobody is lost or passed over within a rank.** -/
theorem lossless {is : List (CounterInput α)}
    (h : Run (Counter.step rank) (fun _ _ => True) init is c) : c.Lossless rank :=
  h.invariant (fun _ _ _ hc _ hst => hc.step hst) ⟨.refl _, fun _ => rfl⟩

/-- Who came is who is among the inputs, in the same order. -/
theorem arrived_eq {is : List (CounterInput α)}
    (h : Run (Counter.step rank) (fun _ _ => True) init is c) :
    c.arrived = is.filterMap CounterInput.arrival := by
  induction h with
  | nil => rfl
  | @snoc is c₁ c₂ i _ _ hst ih =>
    rw [List.filterMap_append, ← ih]
    cases i with
    | arrive x =>
      obtain rfl := Option.some.inj hst
      rfl
    | look =>
      obtain rfl := Option.some.inj hst
      exact (List.append_nil _).symm
    | serve k =>
      obtain ⟨-, x, harrived, -⟩ := serve_eq_some hst
      rw [harrived]
      exact (List.append_nil _).symm
    | rest =>
      simp only [Counter.step] at hst
      split at hst
      · cases hst
        exact (List.append_nil _).symm
      · cases hst

end Counter

end Basis
