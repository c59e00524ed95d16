/-
# Keeping account of resources

A program moves resources (buffers, handles, tokens) between places, takes new
ones from outside, and has some in hand while it works.  `Books` says which
resources of a state are in a place or have left through one, and which have
been taken from outside so far; both are multisets, so a resource in two places
counts twice.

`Conserves s hand t hand'` is the law of a call that starts in `s` with `hand`
in hand and ends in `t` with `hand'`: what was placed, in hand or taken is
placed or in hand.  It composes like a function call (`Conserves.trans`), and
what a call does not touch may be in hand throughout (`Conserves.frame`).  What a call
loses is determined (`Conserves.hand_unique`), so a call that is one resource
short obeys no law without it.
-/

import Mathlib.Algebra.BigOperators.Fin
import Mathlib.Algebra.Order.Group.Multiset

namespace Basis

/-- One of finitely many places has a new content: what it had before and what all places
have now is what all places had and the new content. -/
theorem sum_add_of_agree {ι α M : Type*} [Fintype ι] [DecidableEq ι] [AddCommMonoid M]
    (g : α → M) {f f' : ι → α} {i : ι} (h : ∀ j, j ≠ i → f' j = f j) :
    ∑ j, g (f' j) + g (f i) = ∑ j, g (f j) + g (f' i) := by
  have hrest : ∑ j ∈ Finset.univ.erase i, g (f' j) = ∑ j ∈ Finset.univ.erase i, g (f j) :=
    Finset.sum_congr rfl fun j hj => by rw [h j (Finset.ne_of_mem_erase hj)]
  rw [← Finset.add_sum_erase _ _ (Finset.mem_univ i),
    ← Finset.add_sum_erase _ (fun j => g (f j)) (Finset.mem_univ i), hrest, add_right_comm,
    add_comm (g (f' i)), add_right_comm]

/-- One summand changes: the sum with the old one is the sum with the new one. -/
theorem sum_update_add {ι α M : Type*} [Fintype ι] [DecidableEq ι] [AddCommMonoid M]
    (g : α → M) (f : ι → α) (i : ι) (x : α) :
    ∑ j, g (Function.update f i x j) + g (f i) = ∑ j, g (f j) + g x := by
  have h := sum_add_of_agree g (f := f) (i := i) fun j hj => Function.update_of_ne hj x f
  rwa [Function.update_self] at h

/-- Where the resources of a state are. -/
structure Books (σ α : Type*) where
  /-- In a place, or gone through one. -/
  placed : σ → Multiset α
  /-- Taken from outside so far. -/
  taken : σ → Multiset α

namespace Books

variable {σ α : Type*} {B : Books σ α} {s t u : σ} {g h k : Multiset α}

/-- Nothing is lost between `s` with `g` in hand and `t` with `h` in hand, and nothing
is in two places. -/
def Conserves (B : Books σ α) (s : σ) (g : Multiset α) (t : σ) (h : Multiset α) : Prop :=
  B.placed s + g + B.taken t = B.placed t + h + B.taken s

namespace Conserves

/-- Where nothing happens the books balance. -/
theorem refl (B : Books σ α) (s : σ) (g : Multiset α) : B.Conserves s g s g := rfl

/-- **Calls one after another**, what the first leaves in hand being what the
second starts with. -/
theorem trans (h₁ : B.Conserves s g t h) (h₂ : B.Conserves t h u k) : B.Conserves s g u k := by
  classical
  refine Multiset.ext.2 fun a => ?_
  have e₁ := congrArg (Multiset.count a) h₁
  have e₂ := congrArg (Multiset.count a) h₂
  simp only [Multiset.count_add] at e₁ e₂ ⊢
  omega

/-- What a call does not touch. -/
theorem frame (h₁ : B.Conserves s g t h) (k : Multiset α) :
    B.Conserves s (g + k) t (h + k) := by
  unfold Conserves at h₁ ⊢
  rw [← add_assoc, ← add_assoc, add_right_comm, h₁, add_right_comm]

/-- **What is left in hand is determined** by what was in hand before. -/
theorem hand_unique (h₁ : B.Conserves s g t h) (h₂ : B.Conserves s g t k) : h = k := by
  have e : B.placed t + h + B.taken s = B.placed t + k + B.taken s := h₁.symm.trans h₂
  exact add_left_cancel (add_right_cancel e)

/-- The same places and nothing taken: what is in hand stays there. -/
theorem of_eq (hp : B.placed t = B.placed s) (ht : B.taken t = B.taken s) :
    B.Conserves s g t g := by
  rw [Conserves, hp, ht]

/-- What is in hand is put into a place. -/
theorem place (hp : B.placed t = B.placed s + g) (ht : B.taken t = B.taken s) :
    B.Conserves s g t 0 := by
  rw [Conserves, hp, ht, add_zero]

/-- Something is taken from outside. -/
theorem take (hp : B.placed t = B.placed s) (ht : B.taken t = B.taken s + g) :
    B.Conserves s 0 t g := by
  rw [Conserves, hp, ht, add_zero, add_comm (B.taken s) g, add_assoc]

end Conserves
end Books
end Basis
